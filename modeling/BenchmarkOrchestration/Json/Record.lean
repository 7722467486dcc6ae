import BenchmarkOrchestration.Json.Value

namespace BenchmarkOrchestration.Json

/-!
# Records and alternatives in documents

A record is written as an object with one field for every entry.  It may also be written as the
array of its entries in order.  An alternative is written as its name, or as an object with its
name as the only key when it carries a value; one that carries none may carry null.
-/

namespace Value

/-- A value that is a text. -/
def text? : Value → Option String
  | .text value => some value
  | _ => none

/-- A value that is an array. -/
def elements? : Value → Option (List Value)
  | .array elements => some elements
  | _ => none

/-- A value that is an array of texts. -/
def texts?
    (value : Value) :
    Option (List String) := do
  (← value.elements?).mapM text?

/-- An entry that may be missing or null. -/
def optional?
    (read? : Value → Option α)
    (entry : Option Value) :
    Option (Option α) :=
  match entry with
  | none => some none
  | some .null => some none
  | some value => (read? value).map some

/--
The entries of a record in the order of their names.  In the array form all must be present,
except for the last `omittable` ones.
-/
def entries?
    (names : List String)
    (omittable : Nat)
    (value : Value) :
    Option (List (Option Value)) :=
  match value with
  | .object fields =>
      some (names.map fun name => fields.lookup name)
  | .array elements =>
      if elements.length ≤ names.length ∧ names.length ≤ elements.length + omittable then
        some (elements.map some ++ List.replicate (names.length - elements.length) none)
      else
        none
  | _ => none

/-- The name of an alternative and the value that it carries. -/
def alternative? : Value → Option (String × Option Value)
  | .text name => some (name, none)
  | .object [(name, carried)] => some (name, some carried)
  | _ => none

/-- The name of an alternative that carries nothing. -/
def bareAlternative?
    (value : Value) :
    Option String :=
  match value.alternative? with
  | some (name, none) => some name
  | some (name, some .null) => some name
  | _ => none

/-- A text, or null when there is none. -/
def ofOptionalText : Option String → Value
  | none => .null
  | some value => .text value

/-- An array of texts. -/
def ofTexts
    (texts : List String) :
    Value :=
  .array (texts.map .text)

end Value

end BenchmarkOrchestration.Json
