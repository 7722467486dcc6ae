import BenchmarkOrchestration.Arguments.Expansion
import BenchmarkOrchestration.Proofs.Arguments.Creation
import Mathlib.Data.List.Forall2

namespace BenchmarkOrchestration

/-!
# Expansions in linear mode

However a mapping is obtained, its table passed the comparison of all numbers of values.  In linear
mode the smallest of them is therefore the number of every parameter, and each row has a value of
every parameter.
-/

namespace ArgumentMapping

/-- In linear mode, row after row holds the value of every parameter at the place of the row. -/
structure LinearRows
    (mapping : ArgumentMapping)
    (count : Nat) :
    Prop where
  sameCount : ∀ p ∈ mapping.parameters, p.values.length = count
  size : mapping.size = count
  rowCount : mapping.combinations.length = count
  rows :
    ∀ row < count, ∃ values,
      mapping.combinations[row]? = some values ∧
        List.Forall₂ (fun p value => p.values[row]? = some value) mapping.parameters values

/-- The smallest of equal counts is each of them. -/
theorem foldl_min_of_forall_eq
    {count : Nat}
    {counts : List Nat}
    (same : ∀ other ∈ counts, other = count) :
    counts.foldl min count = count := by
  induction counts with
  | nil =>
      rfl
  | cons first rest inductionHypothesis =>
      have firstSame := same first List.mem_cons_self
      have restSame : ∀ other ∈ rest, other = count := by
        intro other member
        exact same other (List.mem_cons_of_mem _ member)
      rw [List.foldl_cons, firstSame, Nat.min_self]
      exact inductionHypothesis restSame

/-- In linear mode with parameters, the size is the number of values that all of them have. -/
theorem size_of_linear
    {mapping : ArgumentMapping}
    {count : Nat}
    (linear : mapping.mode = .linear)
    (declared : mapping.parameters ≠ [])
    (sameCount : ∀ p ∈ mapping.parameters, p.values.length = count) :
    mapping.size = count := by
  obtain ⟨first, rest, shape⟩ := List.exists_cons_of_ne_nil declared
  rw [shape] at sameCount
  have firstCount := sameCount first List.mem_cons_self
  have restCounts : ∀ other ∈ rest.map (·.values.length), other = count := by
    intro other member
    obtain ⟨p, later, rfl⟩ := List.mem_map.mp member
    exact sameCount p (List.mem_cons_of_mem _ later)
  simp only [size, linear, shape, List.map_cons]
  rw [firstCount]
  exact foldl_min_of_forall_eq restCounts

/-- In linear mode with parameters, the rows are read at the places below the size. -/
theorem combinations_of_linear
    {mapping : ArgumentMapping}
    (linear : mapping.mode = .linear)
    (declared : mapping.parameters ≠ []) :
    mapping.combinations =
      (List.range mapping.size).map fun row =>
        mapping.parameters.filterMap fun p => p.values[row]? := by
  obtain ⟨first, rest, shape⟩ := List.exists_cons_of_ne_nil declared
  simp only [combinations, linear, shape]

/-- Without parameters there is one row without values, in both modes. -/
theorem combinations_of_nil
    {mapping : ArgumentMapping}
    (undeclared : mapping.parameters = []) :
    mapping.combinations = [[]] := by
  simp only [combinations, undeclared]

/-- At a place that every parameter has, no parameter is skipped. -/
theorem forall₂_filterMap_values
    {row : Nat}
    {parameters : List Parameter}
    (inside : ∀ p ∈ parameters, row < p.values.length) :
    List.Forall₂ (fun p value => p.values[row]? = some value) parameters
      (parameters.filterMap fun p => p.values[row]?) := by
  induction parameters with
  | nil =>
      exact .nil
  | cons first rest inductionHypothesis =>
      have found := List.getElem?_eq_getElem (inside first List.mem_cons_self)
      simp only [List.filterMap_cons, found]
      refine .cons found (inductionHypothesis ?_)
      intro p member
      exact inside p (List.mem_cons_of_mem _ member)

/-- A linear mapping with parameters has its rows. -/
theorem exists_linearRows
    {mapping : ArgumentMapping}
    (linear : mapping.mode = .linear)
    (declared : mapping.parameters ≠ []) :
    ∃ count, LinearRows mapping count := by
  obtain ⟨first, firstMember⟩ := List.exists_mem_of_ne_nil _ declared
  have sameCount : ∀ p ∈ mapping.parameters, p.values.length = first.values.length := by
    intro p member
    exact mapping.rectangular linear p member first firstMember
  have size := size_of_linear linear declared sameCount
  have shape := combinations_of_linear linear declared
  rw [size] at shape
  refine ⟨first.values.length, sameCount, size, by simp [shape], ?_⟩
  intro row below
  refine ⟨_, by simp [shape, below], forall₂_filterMap_values ?_⟩
  intro p member
  rw [sameCount p member]
  exact below

/--
Mappings of any origin expand as their tables say.  The table is the one that was given, and in
linear mode it was accepted exactly if all parameters have equally many values.
-/
structure ExpandsAsGiven
    (origin : Origin) :
    Prop where
  accepted_iff :
    ∀ mode parameters fileNames,
      (∃ mapping : ArgumentMapping,
          origin.mapping? = some mapping ∧ mapping.parts = (mode, parameters, fileNames)) ↔
        origin.parts? = some (mode, parameters, fileNames) ∧
          (mode = .linear →
            ∀ p ∈ parameters, ∀ q ∈ parameters, p.values.length = q.values.length)
  linearRows :
    ∀ mapping : ArgumentMapping,
      origin.mapping? = some mapping → mapping.mode = .linear → mapping.parameters ≠ [] →
        ∃ count, LinearRows mapping count
  oneEmptyRow :
    ∀ mapping : ArgumentMapping,
      origin.mapping? = some mapping → mapping.parameters = [] → mapping.combinations = [[]]

/-- A creation is refused in linear mode only, and then names the first parameter that differs. -/
structure RefusesByFirstMismatch
    (parameters : List Parameter) :
    Prop where
  refused_iff :
    (∃ fault, create .linear parameters = .error fault) ↔
      ∃ p ∈ parameters, ∃ q ∈ parameters, p.values.length ≠ q.values.length
  named :
    ∀ fault, create .linear parameters = .error fault → NamesFirstMismatch parameters fault
  neverRefused : ∃ mapping, create .cartesian parameters = .ok mapping

/-- Every way of obtaining a mapping gives it exactly the table that passes the comparison. -/
theorem Origin.expandsAsGiven
    (origin : Origin) :
    ExpandsAsGiven origin where
  accepted_iff := by
    intro mode parameters fileNames
    constructor
    · rintro ⟨mapping, obtained, table⟩
      rw [Origin.mapping?_eq_some_iff, table] at obtained
      refine ⟨obtained, ?_⟩
      simp only [parts, Prod.mk.injEq] at table
      obtain ⟨rfl, rfl, rfl⟩ := table
      exact mapping.rectangular
    · rintro ⟨given, rectangular⟩
      exact ⟨⟨mode, parameters, fileNames, rectangular⟩,
        Origin.mapping?_eq_some_iff.mpr given, rfl⟩
  linearRows := by
    intro mapping _ linear declared
    exact exists_linearRows linear declared
  oneEmptyRow := by
    intro mapping _ undeclared
    exact combinations_of_nil undeclared

/-- In linear mode the creation is refused for two different numbers of values. -/
theorem refusesByFirstMismatch
    (parameters : List Parameter) :
    RefusesByFirstMismatch parameters where
  refused_iff := by
    rw [create_fails_iff]
    simp [Rectangular]
  named := by
    intro fault refused
    exact namesFirstMismatch_of_create refused
  neverRefused := ⟨_, rfl⟩

/--
In linear mode every mapping has as many rows as each of its parameters has values, whatever way it
was obtained in, because tables with different numbers of values are refused.
-/
theorem expandsAsGiven_and_refusesByFirstMismatch
    (origin : Origin)
    (parameters : List Parameter) :
    ExpandsAsGiven origin ∧ RefusesByFirstMismatch parameters :=
  ⟨origin.expandsAsGiven, refusesByFirstMismatch parameters⟩

/-- The second parameter is the first with another number of values than the one before it. -/
example :
    create .linear [⟨"x", [.text "1", .text "2"]⟩, ⟨"y", [.null]⟩, ⟨"z", []⟩] =
      .error (.lengthMismatch "y" 2 1) := by
  decide

end ArgumentMapping

end BenchmarkOrchestration
