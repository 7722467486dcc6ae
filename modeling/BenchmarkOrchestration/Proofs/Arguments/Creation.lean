import BenchmarkOrchestration.Arguments.Format
import BenchmarkOrchestration.Document.ArgumentTable
import BenchmarkOrchestration.Proofs.Document.Results

namespace BenchmarkOrchestration

/-!
# How mappings are obtained

In linear mode the creation of a mapping compares every parameter with the first one.  It refuses
exactly the tables that are not rectangular, by the first parameter that differs; in cartesian mode
it refuses nothing.  Stored mappings and the argument tables of documents are checked in the same
way.  Whatever is not refused becomes a mapping of the very table that was given.
-/

namespace ArgumentMapping

/-- A table as it is given: its mode, its parameters and the names that a file-backed one lists. -/
abbrev Parts := MapperMode × List Parameter × Option (List String)

/-- The table of a mapping. -/
def parts
    (mapping : ArgumentMapping) :
    Parts :=
  (mapping.mode, mapping.parameters, mapping.fileNames)

/-- A mapping is known by its table. -/
theorem parts_injective :
    Function.Injective parts := by
  rintro ⟨mode, parameters, fileNames, rectangular⟩ other same
  cases other
  cases same
  rfl

/-- A fault names the first parameter whose number of values differs from that of the first one. -/
def NamesFirstMismatch
    (parameters : List Parameter)
    (fault : DocumentFault) :
    Prop :=
  ∃ first before bad after,
    parameters = first :: before ++ bad :: after ∧
      (∀ p ∈ before, p.values.length = first.values.length) ∧
      bad.values.length ≠ first.values.length ∧
      fault = .lengthMismatch bad.name first.values.length bad.values.length

/-- Comparing with the first parameter finds no mismatch exactly in rectangular tables. -/
theorem mismatch?_eq_none_iff
    {parameters : List Parameter} :
    mismatch? parameters = none ↔ Rectangular parameters := by
  constructor
  · exact rectangular_of_mismatch?_eq_none
  · intro rectangular
    cases parameters with
    | nil =>
        rfl
    | cons first rest =>
        rw [mismatch?, Option.map_eq_none_iff, List.find?_eq_none]
        intro p declared
        have same := rectangular p (List.mem_cons_of_mem _ declared) first List.mem_cons_self
        simpa using same

/-- A mismatch that is found is the first one. -/
theorem namesFirstMismatch_of_mismatch?
    {parameters : List Parameter}
    {fault : DocumentFault}
    (found : mismatch? parameters = some fault) :
    NamesFirstMismatch parameters fault := by
  cases parameters with
  | nil =>
      cases found
  | cons first rest =>
      obtain ⟨bad, search, rfl⟩ := Option.map_eq_some_iff.mp found
      obtain ⟨differs, before, after, rfl, agree⟩ := List.find?_eq_some_iff_append.mp search
      refine ⟨first, before, bad, after, rfl, ?_, by simpa using differs, rfl⟩
      intro p earlier
      simpa using agree p earlier

/-- In linear mode a rectangular table is accepted as it is. -/
theorem create_linear_of_rectangular
    {parameters : List Parameter}
    (rectangular : Rectangular parameters) :
    create .linear parameters = .ok ⟨.linear, parameters, none, fun _ => rectangular⟩ := by
  have matched := mismatch?_eq_none_iff.mpr rectangular
  -- The branch without a mismatch carries its proof, which forbids rewriting with `matched`.
  rw [create]
  split
  · rename_i fault found
    rw [matched] at found
    cases found
  · rfl

/-- In linear mode a table with a mismatch is refused by it. -/
theorem create_linear_of_mismatch?
    {parameters : List Parameter}
    {fault : DocumentFault}
    (found : mismatch? parameters = some fault) :
    create .linear parameters = .error fault := by
  rw [create]
  split
  · rename_i other otherFound
    rw [found] at otherFound
    rw [Option.some.inj otherFound]
  · rename_i matched
    rw [matched] at found
    cases found

/-- The table of a mapping is accepted again; only the names of a file are missing then. -/
theorem create_parameters
    (mapping : ArgumentMapping) :
    create mapping.mode mapping.parameters = .ok { mapping with fileNames := none } := by
  obtain ⟨mode, parameters, fileNames, rectangular⟩ := mapping
  cases mode with
  | linear =>
      exact create_linear_of_rectangular (rectangular rfl)
  | cartesian =>
      rfl

/-- A created mapping has the mode and the parameters that were given, and no names of a file. -/
theorem create_eq_ok_iff
    {mode : MapperMode}
    {parameters : List Parameter}
    {mapping : ArgumentMapping} :
    create mode parameters = .ok mapping ↔ mapping.parts = (mode, parameters, none) := by
  constructor
  · intro created
    cases mode with
    | cartesian =>
        cases created
        rfl
    | linear =>
        cases matched : mismatch? parameters with
        | none =>
            rw [create_linear_of_rectangular (mismatch?_eq_none_iff.mp matched)] at created
            cases created
            rfl
        | some fault =>
            rw [create_linear_of_mismatch? matched] at created
            cases created
  · rw [parts, Prod.mk.injEq, Prod.mk.injEq]
    rintro ⟨rfl, rfl, unnamed⟩
    rw [create_parameters, ← unnamed]

/-- A mapping lists names of a file if it was given them after its table was accepted. -/
theorem exists_withFileNames_iff
    {mode : MapperMode}
    {parameters : List Parameter}
    {names : List String}
    {mapping : ArgumentMapping} :
    (∃ bare : ArgumentMapping,
        bare.parts = (mode, parameters, none) ∧ bare.withFileNames names = mapping) ↔
      mapping.parts = (mode, parameters, some names) := by
  constructor
  · rintro ⟨bare, table, rfl⟩
    simp only [parts, Prod.mk.injEq] at table
    simp only [parts, withFileNames, table]
  · intro table
    simp only [parts, Prod.mk.injEq] at table
    obtain ⟨rfl, rfl, named⟩ := table
    refine ⟨{ mapping with fileNames := none }, rfl, ?_⟩
    rw [withFileNames, ← named]

/-- A creation fails exactly in linear mode and for a table that is not rectangular. -/
theorem create_fails_iff
    {mode : MapperMode}
    {parameters : List Parameter} :
    (∃ fault, create mode parameters = .error fault) ↔
      mode = .linear ∧ ¬ Rectangular parameters := by
  cases mode with
  | cartesian =>
      simp [create]
  | linear =>
      cases matched : mismatch? parameters with
      | none =>
          have rectangular := mismatch?_eq_none_iff.mp matched
          simp [create_linear_of_rectangular rectangular, rectangular]
      | some fault =>
          have ragged : ¬ Rectangular parameters := by
            rw [← mismatch?_eq_none_iff, matched]
            simp
          simp [create_linear_of_mismatch? matched, ragged]

/-- A failed creation names the first mismatch. -/
theorem namesFirstMismatch_of_create
    {mode : MapperMode}
    {parameters : List Parameter}
    {fault : DocumentFault}
    (refused : create mode parameters = .error fault) :
    NamesFirstMismatch parameters fault := by
  obtain ⟨rfl, ragged⟩ := create_fails_iff.mp ⟨fault, refused⟩
  cases matched : mismatch? parameters with
  | none =>
      exact absurd (mismatch?_eq_none_iff.mp matched) ragged
  | some other =>
      rw [create_linear_of_mismatch? matched] at refused
      cases refused
      exact namesFirstMismatch_of_mismatch? matched

/-- A stored value holds a mapping exactly if its parts are the table of the mapping. -/
theorem decode_eq_ok_iff
    {value : Json.Value}
    {mapping : ArgumentMapping} :
    decode value = .ok mapping ↔ storedParts? value = some mapping.parts := by
  rw [decode]
  cases stored : storedParts? value with
  | none =>
      simp [StoredFault.ofShape, bind, Except.bind]
  | some given =>
      obtain ⟨mode, parameters, fileNames⟩ := given
      simp only [StoredFault.ofShape, bind, Except.bind, Option.some.injEq]
      rw [eq_comm (b := mapping.parts)]
      cases fileNames with
      | none =>
          rw [← create_eq_ok_iff]
          cases create mode parameters <;> simp
      | some names =>
          rw [← exists_withFileNames_iff]
          simp only [← create_eq_ok_iff]
          cases create mode parameters <;> simp

end ArgumentMapping

namespace Document

/--
The table that an argument table of a document describes.  The numbers of values are not compared.
-/
def describedParts?
    (table : Json.Value)
    (context : String) :
    Option ArgumentMapping.Parts := do
  let modeName ← (textField table "mapper" context).toOption
  let mode ← (MapperMode.ofName? modeName).toOption
  match table.get? "pira-file" with
  | some file =>
      let names ← (textsField file "names" "pira-file").toOption
      let block ← file.fields?
      let listed ← (listedParameters block names).toOption
      some (mode, listed ++ unlistedParameters block names, some names)
  | none =>
      let entries ← table.fields?
      some (mode, inlineParameters entries, none)

/-- An argument table gives a mapping exactly if it describes the table of the mapping. -/
theorem argumentTable_eq_ok_iff
    {table : Json.Value}
    {context : String}
    {mapping : ArgumentMapping} :
    argumentTable table context = .ok mapping ↔
      describedParts? table context = some mapping.parts := by
  rw [argumentTable, describedParts?]
  cases table.get? "pira-file" with
  | none =>
      simp only [bind_eq_ok_iff, Option.bind_eq_bind, Option.bind_eq_some_iff,
        toOption_eq_some_iff, asObject_eq_ok_iff, ArgumentMapping.create_eq_ok_iff,
        Option.some.injEq, eq_comm (b := mapping.parts)]
  | some file =>
      simp only [bind_eq_ok_iff, pure_eq_ok_iff, Option.bind_eq_bind, Option.bind_eq_some_iff,
        toOption_eq_some_iff, asObject_eq_ok_iff, ArgumentMapping.create_eq_ok_iff,
        ArgumentMapping.exists_withFileNames_iff, Option.some.injEq, eq_comm (b := mapping.parts)]

end Document

namespace ArgumentMapping

/-- The ways in which a mapping can be obtained, each from a table that was not checked before. -/
inductive Origin where
  | created (mode : MapperMode) (parameters : List Parameter)
  | empty (mode : MapperMode)
  | named (origin : Origin) (names : List String)
  | stored (value : Json.Value)
  | described (table : Json.Value) (context : String)

namespace Origin

/-- The mapping that is obtained, unless its table is refused. -/
def mapping? : Origin → Option ArgumentMapping
  | .created mode parameters => (create mode parameters).toOption
  | .empty mode => some (ArgumentMapping.empty mode)
  | .named origin names => origin.mapping?.map fun mapping => mapping.withFileNames names
  | .stored value => (decode value).toOption
  | .described table context => (Document.argumentTable table context).toOption

/-- The table that is given, whether it is rectangular or not. -/
def parts? : Origin → Option Parts
  | .created mode parameters => some (mode, parameters, none)
  | .empty mode => some (mode, [], none)
  | .named origin names =>
      origin.parts?.map fun (mode, parameters, _) => (mode, parameters, some names)
  | .stored value => storedParts? value
  | .described table context => Document.describedParts? table context

/--
Every way gives a mapping exactly if the given table is that of the mapping.  As the table of a
mapping is rectangular in linear mode, tables that are not rectangular are refused on every way.
-/
theorem mapping?_eq_some_iff
    {origin : Origin}
    {mapping : ArgumentMapping} :
    origin.mapping? = some mapping ↔ origin.parts? = some mapping.parts := by
  induction origin generalizing mapping with
  | created mode parameters =>
      rw [mapping?, parts?, Document.toOption_eq_some_iff, create_eq_ok_iff, Option.some.injEq,
        eq_comm]
  | empty mode =>
      rw [mapping?, parts?, Option.some.injEq, Option.some.injEq]
      exact ⟨congrArg parts, fun same => parts_injective same⟩
  | named origin names inductionHypothesis =>
      rw [mapping?, parts?, Option.map_eq_some_iff, Option.map_eq_some_iff]
      constructor
      · rintro ⟨earlier, obtained, rfl⟩
        exact ⟨earlier.parts, inductionHypothesis.mp obtained, rfl⟩
      · rintro ⟨⟨mode, parameters, earlierNames⟩, given, same⟩
        simp only [parts, Prod.mk.injEq] at same
        obtain ⟨rfl, rfl, named⟩ := same
        -- Before the names were given, the mapping had those of its origin, if any.
        refine ⟨{ mapping with fileNames := earlierNames }, inductionHypothesis.mpr given, ?_⟩
        rw [withFileNames, named]
  | stored value =>
      rw [mapping?, parts?, Document.toOption_eq_some_iff, decode_eq_ok_iff]
  | described table context =>
      rw [mapping?, parts?, Document.toOption_eq_some_iff, Document.argumentTable_eq_ok_iff]

end Origin

end ArgumentMapping

end BenchmarkOrchestration
