import BenchmarkOrchestration.Arguments.Sequence
import BenchmarkOrchestration.Fault

namespace BenchmarkOrchestration

/-!
# Argument mappings

A mapping is a table of parameters with their values, and a mode that says how values are
combined.  In linear mode the first invocation takes the first value of every parameter, the second
the second, and so on; the table must then be rectangular, which is part of the type.  In cartesian
mode every combination is an invocation.
-/

/-- How the values of different parameters are combined. -/
inductive MapperMode where
  | linear
  | cartesian
  deriving Repr, DecidableEq

namespace MapperMode

/-- The name of the mode in documents and messages. -/
def name : MapperMode → String
  | .linear => "linear"
  | .cartesian => "cartesian-product"

/-- The mode with a given name, in any case of ASCII letters; one mode has a short name too. -/
def ofName?
    (text : String) :
    Except DocumentFault MapperMode :=
  let lowered := text.toLower
  if lowered = "linear" then .ok .linear
  else if lowered = "cartesian-product" ∨ lowered = "cartesian" then .ok .cartesian
  else .error (.unknownMapper text)

end MapperMode

/-- A parameter and its values in order. -/
structure Parameter where
  name : String
  values : List Json.Value
  deriving Repr, DecidableEq

/-- Whether all parameters have the same number of values. -/
def Rectangular
    (parameters : List Parameter) :
    Prop :=
  ∀ p ∈ parameters, ∀ q ∈ parameters, p.values.length = q.values.length

/-- A table of parameters with its mode, and the names that a file-backed table lists. -/
structure ArgumentMapping where
  mode : MapperMode
  parameters : List Parameter
  fileNames : Option (List String)
  rectangular : mode = .linear → Rectangular parameters
  deriving DecidableEq

namespace ArgumentMapping

/-- The first parameter whose number of values differs from that of the first parameter. -/
def mismatch? : List Parameter → Option DocumentFault
  | [] => none
  | first :: rest =>
      let expected := first.values.length
      (rest.find? fun p => p.values.length ≠ expected).map fun p =>
        .lengthMismatch p.name expected p.values.length

/-- A table without a mismatch is rectangular. -/
theorem rectangular_of_mismatch?_eq_none
    {parameters : List Parameter}
    (matched : mismatch? parameters = none) :
    Rectangular parameters := by
  cases parameters with
  | nil =>
      intro p declared
      cases declared
  | cons first rest =>
      have same : ∀ p ∈ first :: rest, p.values.length = first.values.length := by
        intro p declared
        cases declared with
        | head => rfl
        | tail _ declared => simpa using (by simpa [mismatch?] using matched :
            ∀ q ∈ rest, q.values.length = first.values.length) p declared
      intro p hp q hq
      rw [same p hp, same q hq]

/-- A mapping of the parameters; in linear mode they must have equally many values. -/
def create
    (mode : MapperMode)
    (parameters : List Parameter) :
    Except DocumentFault ArgumentMapping :=
  match mode with
  | .cartesian =>
      .ok ⟨.cartesian, parameters, none, by simp⟩
  | .linear =>
      match matched : mismatch? parameters with
      | some fault => .error fault
      | none => .ok ⟨.linear, parameters, none, fun _ => rectangular_of_mismatch?_eq_none matched⟩

/-- The mapping without parameters. -/
def empty
    (mode : MapperMode) :
    ArgumentMapping :=
  ⟨mode, [], none, fun _ _ declared => by cases declared⟩

/-- The same table, backed by a file that lists the given names. -/
def withFileNames
    (mapping : ArgumentMapping)
    (names : List String) :
    ArgumentMapping :=
  { mapping with fileNames := some names }

/-- The names of the parameters in order. -/
def names
    (mapping : ArgumentMapping) :
    List String :=
  mapping.parameters.map Parameter.name

/-- Whether the table came from a file. -/
def isFileBacked
    (mapping : ArgumentMapping) :
    Bool :=
  mapping.fileNames.isSome

end ArgumentMapping

end BenchmarkOrchestration
