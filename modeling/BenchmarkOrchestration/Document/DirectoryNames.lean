import BenchmarkOrchestration.Document.Field
import BenchmarkOrchestration.Text.Affix

namespace BenchmarkOrchestration

/-!
# Named directories

A document may name directories in a table and refer to them with a percent sign.  A table that is
no object counts as no table at all.  A path in the table that begins with a tilde starts in the
home directory, when the tilde stands alone or before a slash.
-/

/-- A path with a tilde at its start replaced by the home directory. -/
def expandHome
    (home path : String) :
    String :=
  match path.toList with
  | ['~'] => home
  | '~' :: '/' :: rest => home ++ String.ofList ('/' :: rest)
  | _ => path

/-- The directories that a document names. -/
abbrev DirectoryNames := List (String × String)

namespace DirectoryNames

/-- The named directories of a document. -/
def ofDocument
    (home : String)
    (tree : Json.Value) :
    DirectoryNames :=
  match tree.get? "directories" with
  | some (.object entries) =>
      entries.map fun (name, path) => (name, expandHome home (Document.textOf path))
  | _ => []

/-- The name that a build key refers to. -/
def reference?
    (key : String) :
    Option String :=
  match key.toList with
  | '%' :: name => some (String.ofList name)
  | _ => none

/-- The directory that a build key stands for: a named one, or the key itself. -/
def resolve
    (names : DirectoryNames)
    (key : String) :
    Except DocumentFault String :=
  match reference? key with
  | none =>
      .ok key
  | some name =>
      match names.lookup name with
      | some path => .ok path
      | none => .error (.unknownAlias name)

end DirectoryNames

end BenchmarkOrchestration
