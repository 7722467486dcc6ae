import BenchmarkOrchestration.Document.Reader
import BenchmarkOrchestration.Files.Tree
import BenchmarkOrchestration.Json.Reader
import BenchmarkOrchestration.Orchestration.Failure

namespace BenchmarkOrchestration

/-!
# Loading configurations

A loader reads each file once, with a parser of its own.  What was loaded from a path is the answer
for every equal path later, whatever happens to the file; a failed load leaves nothing behind.
-/

/-- A loader with its parser and what it has loaded so far. -/
structure Loader where
  parse : Json.Value → Except DocumentFault Configuration
  loaded : List (Path.Key × Configuration)

namespace Loader

/-- A loader with a parser that has loaded nothing. -/
def fresh
    (parse : Json.Value → Except DocumentFault Configuration) :
    Loader :=
  ⟨parse, []⟩

/-- A loader for documents of a mode that has loaded nothing. -/
def start
    (mode : ReadingMode)
    (home : String) :
    Loader :=
  fresh (Document.read mode home)

/-- The configuration that was loaded from a path. -/
def cached?
    (loader : Loader)
    (path : String) :
    Option Configuration :=
  loader.loaded.lookup (Path.key path)

/-- Whether a configuration was loaded from a path. -/
def isCached
    (loader : Loader)
    (path : String) :
    Bool :=
  (loader.cached? path).isSome

/-- Read the file of a path. -/
def read
    (loader : Loader)
    (tree : FileTree)
    (here : Location)
    (path : String) :
    Except Failure Configuration :=
  match tree.readText here path with
  | .error fault => .error (.document (.unreadable path fault.message))
  | .ok text =>
      match Json.read? text with
      | none => .error .malformed
      | some document =>
          match loader.parse document with
          | .error fault => .error (.document fault)
          | .ok config => .ok config

/-- The configuration of a path, and the loader after it. -/
def load
    (loader : Loader)
    (tree : FileTree)
    (here : Location)
    (path : String) :
    Except Failure Configuration × Loader :=
  match loader.cached? path with
  | some config => (.ok config, loader)
  | none =>
      match loader.read tree here path with
      | .error failure => (.error failure, loader)
      | .ok config =>
          (.ok config, { loader with loaded := (Path.key path, config) :: loader.loaded })

end Loader

end BenchmarkOrchestration
