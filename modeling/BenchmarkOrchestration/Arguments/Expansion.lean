import BenchmarkOrchestration.Arguments.Mapping

namespace BenchmarkOrchestration

/-!
# Expanding a mapping into invocations

The size of a cartesian expansion is counted in a machine word of 64 bits.  A build of the program
lets the product of the numbers of values wrap around in the word or panics when it leaves it.
Linear mode reads the table row by row.  Cartesian mode first asks for room for all rows, which
panics when they are more than an allocation may hold, and then counts with an index for every
parameter, the index of the last parameter running fastest, until no index can grow.
-/

/-- What a build of the program does with a product that leaves the machine word. -/
inductive Overflow where
  | wraps
  | panics
  deriving Repr, DecidableEq

/-- Why the expansion of a mapping panics. -/
inductive ExpansionPanic where
  | productOverflow
  | capacityOverflow
  deriving Repr, DecidableEq

namespace ExpansionPanic

/-- The text with which the program ends. -/
def message : ExpansionPanic → String
  | .productOverflow => "attempt to multiply with overflow"
  | .capacityOverflow => "capacity overflow"

end ExpansionPanic

namespace ArgumentMapping

/-- The number of values that a machine word can count. -/
def wordLimit : Nat := Nat.pow 2 64

/-- The octets that one allocation may have at most. -/
def allocationLimit : Nat := Nat.pow 2 63 - 1

/-- The octets of one row: where its values are, their number and the number there is room for. -/
def rowOctets : Nat := 24

/-- The most rows for which there may be room. -/
def rowLimit : Nat := allocationLimit / rowOctets

/-- The product of the counts as a machine word holds it. -/
def wordProduct
    (counts : List Nat) :
    Nat :=
  counts.foldl (fun total count => total * count % wordLimit) 1

/-- The product of a total and a count while it stays in a machine word. -/
def checkedTimes
    (total count : Nat) :
    Except ExpansionPanic Nat :=
  if total * count < wordLimit then .ok (total * count) else .error .productOverflow

/-- The product of the counts, from the first to the last, while it stays in a machine word. -/
def checkedProduct
    (counts : List Nat) :
    Except ExpansionPanic Nat :=
  counts.foldlM checkedTimes 1

/-- The number of invocations; in cartesian mode the product that a machine word holds. -/
def size
    (mapping : ArgumentMapping) :
    Nat :=
  let counts := mapping.parameters.map (·.values.length)
  match mapping.mode, counts with
  | _, [] => 1
  | .linear, first :: rest => rest.foldl min first
  | .cartesian, counts => wordProduct counts

/-- The number of invocations as a build of the program counts it. -/
def count
    (overflow : Overflow)
    (mapping : ArgumentMapping) :
    Except ExpansionPanic Nat :=
  match overflow, mapping.mode with
  | .panics, .cartesian => checkedProduct (mapping.parameters.map (·.values.length))
  | _, _ => .ok mapping.size

/-- Whether the expansion counts as empty. -/
def isEmpty
    (mapping : ArgumentMapping) :
    Bool :=
  mapping.size = 0

/--
The carry in front of a digit, towards the first.  An index that can grow grows by one and ends the
carry; one that cannot starts again, and the carry goes on in front of it.
-/
def carry?
    (bounds : List Nat) :
    (digit : Nat) → (cursor : List Nat) → Option (List Nat)
  | 0, _ => none
  | digit + 1, cursor =>
      let grown := cursor.getD digit 0 + 1
      if grown < bounds.getD digit 0 then
        some (cursor.set digit grown)
      else
        carry? bounds digit (cursor.set digit 0)

/-- The index vector after `cursor`, where every index stays below its bound. -/
def advance?
    (cursor bounds : List Nat) :
    Option (List Nat) :=
  carry? bounds cursor.length cursor

/-- `cursor` and the index vectors after it, at most `fuel` in all. -/
def countFrom : (fuel : Nat) → (cursor bounds : List Nat) → List (List Nat)
  | 0, _, _ => []
  | fuel + 1, cursor, bounds =>
      cursor ::
        match advance? cursor bounds with
        | some next => countFrom fuel next bounds
        | none => []

/-- The values at one index vector, in the order of the parameters. -/
def valuesAt
    (parameters : List Parameter)
    (cursor : List Nat) :
    List Json.Value :=
  (parameters.zip cursor).filterMap fun (p, index) => p.values[index]?

/--
The values of every combination, the first parameter varying slowest.  These are the rows that are
listed as long as there is room for them; `expand` says when there is none.
-/
def combinations
    (mapping : ArgumentMapping) :
    List (List Json.Value) :=
  let parameters := mapping.parameters
  let bounds := parameters.map (·.values.length)
  match parameters, mapping.mode with
  | [], _ =>
      [[]]
  | _, .linear =>
      (List.range mapping.size).map fun row =>
        parameters.filterMap fun p => p.values[row]?
  | _, .cartesian =>
      if mapping.size = 0 then
        []
      else
        let count := bounds.foldr (· * ·) 1
        (countFrom count (bounds.map fun _ => 0) bounds).map (valuesAt parameters)

/-- The panic of an expansion: rows are counted and given room before the first one is listed. -/
def panic?
    (overflow : Overflow)
    (mapping : ArgumentMapping) :
    Option ExpansionPanic :=
  match mapping.mode, mapping.count overflow with
  | .linear, _ => none
  | .cartesian, .error panic => some panic
  | .cartesian, .ok total => if rowLimit < total then some .capacityOverflow else none

/-- The combinations as a build of the program lists them. -/
def expand
    (overflow : Overflow)
    (mapping : ArgumentMapping) :
    Except ExpansionPanic (List (List Json.Value)) :=
  match mapping.panic? overflow with
  | some panic => .error panic
  | none => .ok mapping.combinations

/-- The text between two values of an invocation. -/
def separator : String := " "

/-- The invocations as texts, in the order of the combinations. -/
def asList
    (mapping : ArgumentMapping) :
    List String :=
  mapping.combinations.map fun values =>
    separator.intercalate (values.map ArgumentValue.render)

end ArgumentMapping

end BenchmarkOrchestration
