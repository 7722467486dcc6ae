import BenchmarkOrchestration.Number.Binary64

namespace BenchmarkOrchestration.Json

/-!
# Documents

A document is a tree.  Objects keep their fields in the order of the text, each key once; the order
of parameters and items in a configuration comes from there.
-/

/-- A number is an integer or a binary number; the two kinds are told apart by their spelling. -/
inductive Number where
  | integer (value : Int)
  | binary (value : Binary64)
  deriving Repr, DecidableEq

/-- A node of a document. -/
inductive Value where
  | null
  | boolean (value : Bool)
  | number (value : Number)
  | text (value : String)
  | array (elements : List Value)
  | object (fields : List (String × Value))
  deriving Repr, Inhabited

namespace Number

/-- Equal as numbers of the same kind. -/
def sameNumber : Number → Number → Bool
  | .integer x, .integer y => x = y
  | .binary x, .binary y => x.sameNumber y
  | _, _ => false

end Number

namespace Value

mutual

/-- Equality of trees is decidable. -/
def decideEq : (x y : Value) → Decidable (x = y)
  | .null, .null => isTrue rfl
  | .boolean a, .boolean b =>
      if same : a = b then isTrue (by rw [same]) else isFalse (by simp [same])
  | .number a, .number b =>
      if same : a = b then isTrue (by rw [same]) else isFalse (by simp [same])
  | .text a, .text b =>
      if same : a = b then isTrue (by rw [same]) else isFalse (by simp [same])
  | .array a, .array b =>
      match decideElements a b with
      | isTrue same => isTrue (by rw [same])
      | isFalse differ => isFalse (by simp [differ])
  | .object a, .object b =>
      match decideFields a b with
      | isTrue same => isTrue (by rw [same])
      | isFalse differ => isFalse (by simp [differ])
  | .null, .boolean _ | .null, .number _ | .null, .text _ | .null, .array _ | .null, .object _
  | .boolean _, .null | .boolean _, .number _ | .boolean _, .text _ | .boolean _, .array _
  | .boolean _, .object _ | .number _, .null | .number _, .boolean _ | .number _, .text _
  | .number _, .array _ | .number _, .object _ | .text _, .null | .text _, .boolean _
  | .text _, .number _ | .text _, .array _ | .text _, .object _ | .array _, .null
  | .array _, .boolean _ | .array _, .number _ | .array _, .text _ | .array _, .object _
  | .object _, .null | .object _, .boolean _ | .object _, .number _ | .object _, .text _
  | .object _, .array _ =>
      isFalse (by simp)

/-- Equality of lists of elements is decidable. -/
def decideElements : (xs ys : List Value) → Decidable (xs = ys)
  | [], [] => isTrue rfl
  | [], _ :: _ | _ :: _, [] => isFalse (by simp)
  | x :: xs, y :: ys =>
      match decideEq x y, decideElements xs ys with
      | isTrue first, isTrue rest => isTrue (by rw [first, rest])
      | isFalse differ, _ => isFalse (by simp [differ])
      | _, isFalse differ => isFalse (by simp [differ])

/-- Equality of lists of fields is decidable. -/
def decideFields : (xs ys : List (String × Value)) → Decidable (xs = ys)
  | [], [] => isTrue rfl
  | [], _ :: _ | _ :: _, [] => isFalse (by simp)
  | (k, x) :: xs, (l, y) :: ys =>
      if same : k = l then
        match decideEq x y, decideFields xs ys with
        | isTrue first, isTrue rest => isTrue (by rw [same, first, rest])
        | isFalse differ, _ => isFalse (by simp [differ])
        | _, isFalse differ => isFalse (by simp [differ])
      else
        isFalse (by simp [same])

end

instance : DecidableEq Value :=
  decideEq

mutual

/-- Equal as data: numbers count by value, and fields may stand in another order. -/
def sameData : Value → Value → Bool
  | .null, .null => true
  | .boolean a, .boolean b => a = b
  | .number a, .number b => a.sameNumber b
  | .text a, .text b => a = b
  | .array a, .array b => sameElements a b
  | .object a, .object b => a.length = b.length && fieldsOccur a b
  | _, _ => false

/-- Equal element by element. -/
def sameElements : List Value → List Value → Bool
  | [], [] => true
  | x :: xs, y :: ys => sameData x y && sameElements xs ys
  | _, _ => false

/-- Every field has a partner with the same key and equal data. -/
def fieldsOccur : List (String × Value) → List (String × Value) → Bool
  | [], _ => true
  | (key, x) :: rest, others =>
      (match others.lookup key with
        | some y => sameData x y
        | none => false) && fieldsOccur rest others

end

/-- The value of a field of an object; other values have no fields. -/
def get? : Value → String → Option Value
  | .object fields, key => fields.lookup key
  | _, _ => none

/-- The fields of an object. -/
def fields? : Value → Option (List (String × Value))
  | .object fields => some fields
  | _ => none

end Value

/-- Put a field into an object: a new key goes to the end, a known one keeps its place. -/
def putField
    (fields : List (String × Value))
    (key : String)
    (value : Value) :
    List (String × Value) :=
  match fields with
  | [] => [(key, value)]
  | (k, v) :: rest => if k = key then (key, value) :: rest else (k, v) :: putField rest key value

end BenchmarkOrchestration.Json
