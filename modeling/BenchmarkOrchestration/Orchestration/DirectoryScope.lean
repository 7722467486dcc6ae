import BenchmarkOrchestration.Files.Path

namespace BenchmarkOrchestration

/-!
# Acquired directories

A build happens inside a directory that exists.  The scope of a build holds this directory and
notes whether the build was completed; the directory of a benchmark is looked up below it.
-/

/-- How far the build in a directory has come. -/
inductive BuildStage where
  | acquired
  | built
  deriving Repr, DecidableEq

/-- A directory that existed when it was acquired. -/
structure DirectoryScope where
  directory : String
  stage : BuildStage
  deriving Repr, DecidableEq

namespace DirectoryScope

/-- Acquire a directory; one that does not exist is refused by its path. -/
def acquire
    (isDirectory : String → Bool)
    (path : String) :
    Except String DirectoryScope :=
  if isDirectory path then .ok ⟨path, .acquired⟩ else .error path

/-- The path of a benchmark below the directory. -/
def pathOf
    (scope : DirectoryScope)
    (benchmark : String) :
    String :=
  Path.join scope.directory benchmark

/-- The directory of a benchmark; one that does not exist is refused by its path. -/
def benchmarkDirectory
    (scope : DirectoryScope)
    (isDirectory : String → Bool)
    (benchmark : String) :
    Except String String :=
  let path := scope.pathOf benchmark
  if isDirectory path then .ok path else .error path

/-- Note that the build was completed. -/
def markBuilt
    (scope : DirectoryScope) :
    DirectoryScope :=
  { scope with stage := .built }

end DirectoryScope

end BenchmarkOrchestration
