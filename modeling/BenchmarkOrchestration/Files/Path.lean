import BenchmarkOrchestration.Text.Affix

namespace BenchmarkOrchestration

/-!
# Paths

A path is kept as it was written.  Two paths are the same when their components are: repeated
slashes, a slash at the end and a dot other than a leading one do not count.
-/

namespace Path

/-- A path below another one; a path from the root stands for itself. -/
def join
    (base part : String) :
    String :=
  if part.toList.head? = some '/' then part
  else if base = "" ∨ base.toList.getLast? = some '/' then base ++ part
  else base ++ "/" ++ part

/-- The names between the slashes of a path, without empty ones. -/
def names
    (path : String) :
    List String :=
  (splitText '/' path).filter (· ≠ "")

/-- Whether a path starts at the root. -/
def isRooted
    (path : String) :
    Bool :=
  path.toList.head? = some '/'

/-- What identifies a path: whether it starts at the root, and its components. -/
structure Key where
  isRooted : Bool
  components : List String
  deriving Repr, DecidableEq

/-- The identity of a path. -/
def key
    (path : String) :
    Key :=
  match isRooted path, names path with
  | false, first :: rest => ⟨false, first :: rest.filter (· ≠ ".")⟩
  | rooted, components => ⟨rooted, components.filter (· ≠ ".")⟩

/-- The last component of a path, when it is a name. -/
def fileName?
    (path : String) :
    Option String :=
  match (key path).components.getLast? with
  | none => none
  | some name => if name = "." ∨ name = ".." then none else some name

/-- The part of the file name after its last dot; a dot at the start begins no extension. -/
def extension?
    (path : String) :
    Option String := do
  let name ← fileName? path
  match (splitText '.' name).reverse with
  | last :: before :: rest =>
      if rest.isEmpty ∧ before = "" then none else some last
  | _ => none

end Path

end BenchmarkOrchestration
