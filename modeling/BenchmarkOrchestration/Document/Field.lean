import BenchmarkOrchestration.Fault
import BenchmarkOrchestration.Json.Writer

namespace BenchmarkOrchestration

/-!
# Fields of a document

A field is looked up in an object; any other value has none.  Where a text is wanted, a text stands
for itself and every other value for its compact form.  Where a list is wanted, an array stands for
its elements and every other value for a list of one.
-/

namespace Document

/-- The value of a field that must be present. -/
def field
    (tree : Json.Value)
    (key context : String) :
    Except DocumentFault Json.Value :=
  match tree.get? key with
  | some value => .ok value
  | none => .error (.missingField key context)

/-- The fields of a value that must be an object. -/
def asObject
    (value : Json.Value)
    (key context : String) :
    Except DocumentFault (List (String × Json.Value)) :=
  match value.fields? with
  | some fields => .ok fields
  | none => .error (.notAnObject key context)

/-- The fields of a field that must be an object. -/
def objectField
    (tree : Json.Value)
    (key context : String) :
    Except DocumentFault (List (String × Json.Value)) := do
  asObject (← field tree key context) key context

/-- The text that a value stands for. -/
def textOf : Json.Value → String
  | .text value => value
  | other => other.render

/-- The list of texts that a value stands for. -/
def textsOf : Json.Value → List String
  | .array elements => elements.map textOf
  | other => [textOf other]

/-- The text of a field that must be present. -/
def textField
    (tree : Json.Value)
    (key context : String) :
    Except DocumentFault String := do
  return textOf (← field tree key context)

/-- The texts of a field that must be present. -/
def textsField
    (tree : Json.Value)
    (key context : String) :
    Except DocumentFault (List String) := do
  return textsOf (← field tree key context)

end Document

end BenchmarkOrchestration
