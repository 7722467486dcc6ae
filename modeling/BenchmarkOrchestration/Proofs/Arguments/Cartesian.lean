import BenchmarkOrchestration.Proofs.Arguments.Odometer
import BenchmarkOrchestration.Proofs.Arguments.Volume
import Mathlib.Data.List.Nodup

namespace BenchmarkOrchestration

/-!
# Expansions in cartesian mode

While the volume of a table fits into a machine word, the size of its cartesian expansion is the
volume.  Within the row limit the expansion is then the nested product of the value lists in the
order of the parameters, and the odometer reads each row at an index vector of its own.  Beyond the
limit there is no room for the rows, and the expansion panics before it lists one.
-/

namespace ArgumentMapping

/-- The index vectors that the odometer visits, one after the other. -/
def visits
    (mapping : ArgumentMapping) :
    List (List Nat) :=
  countFrom mapping.volume (mapping.bounds.map fun _ => 0) mapping.bounds

/-- Without any choice the odometer is not started, otherwise it visits every index vector. -/
theorem visits_eq_indexVectors
    (mapping : ArgumentMapping) :
    mapping.visits = indexVectors mapping.bounds := by
  by_cases nothing : mapping.volume = 0
  · have empty : (indexVectors mapping.bounds).length = 0 := by
      rw [length_indexVectors]
      exact nothing
    rw [List.eq_nil_of_length_eq_zero empty, visits, nothing]
    rfl
  · exact countFrom_zeros (Nat.pos_of_ne_zero nothing) (Nat.le_refl _)

/-- In cartesian mode with parameters, the rows are read at the visits unless the size is zero. -/
theorem combinations_of_cartesian
    {mapping : ArgumentMapping}
    (cartesian : mapping.mode = .cartesian)
    (declared : mapping.parameters ≠ []) :
    mapping.combinations =
      if mapping.size = 0 then [] else mapping.visits.map (valuesAt mapping.parameters) := by
  obtain ⟨first, rest, shape⟩ := List.exists_cons_of_ne_nil declared
  simp only [combinations, visits, volume, bounds, shape, cartesian, List.prod_eq_foldr]

/-- At indices that are in range the row holds the value of every parameter. -/
theorem map_some_valuesAt
    {parameters : List Parameter}
    {cursor : List Nat}
    (inRange : List.Forall₂ (· < ·) cursor (parameters.map (·.values.length))) :
    (valuesAt parameters cursor).map some =
      List.zipWith (fun p index => p.values[index]?) parameters cursor := by
  induction parameters generalizing cursor with
  | nil =>
      simp [valuesAt]
  | cons p parameters inductionHypothesis =>
      obtain ⟨index, rest, below, restInRange, rfl⟩ := List.forall₂_cons_right_iff.mp inRange
      have later := inductionHypothesis restInRange
      rw [valuesAt] at later
      simp [valuesAt, below, later]

/-- Going through a list is going through the places of its elements. -/
private theorem flatMap_eq_flatMap_range
    (values : List α)
    (rows : α → List β) :
    values.flatMap rows =
      (List.range values.length).flatMap fun index => values[index]?.toList.flatMap rows := by
  induction values with
  | nil =>
      rfl
  | cons value values inductionHypothesis =>
      simp [List.range_succ_eq_map, List.flatMap_map, inductionHypothesis]

/-- Reading the values at all index vectors gives the nested product of the value lists. -/
theorem map_valuesAt_indexVectors
    (parameters : List Parameter) :
    (indexVectors (parameters.map (·.values.length))).map (valuesAt parameters) =
      nestedProduct (parameters.map (·.values)) := by
  induction parameters with
  | nil =>
      rfl
  | cons p parameters inductionHypothesis =>
      have row :
          ∀ index, index < p.values.length →
            ((indexVectors (parameters.map (·.values.length))).map (index :: ·)).map
                (valuesAt (p :: parameters)) =
              p.values[index]?.toList.flatMap fun value =>
                (nestedProduct (parameters.map (·.values))).map (value :: ·) := by
        intro index below
        simp only [List.getElem?_eq_getElem below, Option.toList_some, List.flatMap_singleton,
          ← inductionHypothesis, List.map_map]
        refine List.map_congr_left ?_
        intro cursor _
        simp [valuesAt, below]
      rw [List.map_cons, List.map_cons, nestedProduct, flatMap_eq_flatMap_range,
        indexVectors_cons, List.map_flatMap]
      refine List.flatMap_congr ?_
      intro index member
      exact row index (List.mem_range.mp member)

/-- In cartesian mode with parameters, the rows are the nested product unless the size is zero. -/
theorem combinations_eq_nestedProduct
    {mapping : ArgumentMapping}
    (cartesian : mapping.mode = .cartesian)
    (declared : mapping.parameters ≠ []) :
    mapping.combinations =
      if mapping.size = 0 then [] else nestedProduct (mapping.parameters.map (·.values)) := by
  rw [combinations_of_cartesian cartesian declared, visits_eq_indexVectors, bounds,
    map_valuesAt_indexVectors]

/-- Without any choice there is no index vector to visit. -/
theorem visits_of_volume_eq_zero
    {mapping : ArgumentMapping}
    (nothing : mapping.volume = 0) :
    mapping.visits = [] := by
  rw [visits, nothing]
  rfl

/-- While the volume fits into a word, every row is read at a visit of the odometer. -/
theorem combinations_of_volume_lt
    {mapping : ArgumentMapping}
    (cartesian : mapping.mode = .cartesian)
    (declared : mapping.parameters ≠ [])
    (fits : mapping.volume < wordLimit) :
    mapping.combinations = mapping.visits.map (valuesAt mapping.parameters) := by
  rw [combinations_of_cartesian cartesian declared]
  split
  · rename_i nothing
    rw [size_eq_volume_mod cartesian declared, Nat.mod_eq_of_lt fits] at nothing
    rw [visits_of_volume_eq_zero nothing, List.map_nil]
  · rfl

/-- While the volume fits into a word, the rows are the nested product of the value lists. -/
theorem combinations_eq_nestedProduct_of_volume_lt
    {mapping : ArgumentMapping}
    (cartesian : mapping.mode = .cartesian)
    (declared : mapping.parameters ≠ [])
    (fits : mapping.volume < wordLimit) :
    mapping.combinations = nestedProduct (mapping.parameters.map (·.values)) := by
  rw [combinations_of_volume_lt cartesian declared fits, visits_eq_indexVectors, bounds,
    map_valuesAt_indexVectors]

/-- A build counts a volume that fits into a word, unless a product on the way does not. -/
theorem count_eq_volume
    {mapping : ArgumentMapping}
    {overflow : Overflow}
    (cartesian : mapping.mode = .cartesian)
    (declared : mapping.parameters ≠ [])
    (fits : mapping.volume < wordLimit)
    (stays : overflow = .panics → StaysInWord mapping.bounds) :
    mapping.count overflow = .ok mapping.volume := by
  cases overflow with
  | wraps =>
      rw [count_wraps cartesian declared, Nat.mod_eq_of_lt fits]
  | panics =>
      exact (count_panics cartesian).1 (stays rfl)

/-- There is no room for the rows of a volume beyond the row limit. -/
theorem expand_of_rowLimit_lt
    {mapping : ArgumentMapping}
    {overflow : Overflow}
    (cartesian : mapping.mode = .cartesian)
    (declared : mapping.parameters ≠ [])
    (fits : mapping.volume < wordLimit)
    (stays : overflow = .panics → StaysInWord mapping.bounds)
    (beyond : rowLimit < mapping.volume) :
    mapping.expand overflow = .error .capacityOverflow := by
  have counted := count_eq_volume cartesian declared fits stays
  rw [expand_of_count cartesian counted, if_neg (Nat.not_le.mpr beyond)]

/--
What the expansion of a mapping does in cartesian mode.  Within the row limit its rows are the
nested product of the value lists, and beyond it there is no room for them.  The rows are read at
the visits of the odometer, which stops by itself, visits every index vector once and in
lexicographic order, and never leaves the range of the values.
-/
structure ExpandsCompletely
    (overflow : Overflow)
    (mapping : ArgumentMapping) :
    Prop where
  counted : mapping.count overflow = .ok mapping.volume
  size : mapping.size = mapping.volume
  rows :
    mapping.volume ≤ rowLimit →
      mapping.expand overflow = .ok (nestedProduct (mapping.parameters.map (·.values)))
  noRoom : rowLimit < mapping.volume → mapping.expand overflow = .error .capacityOverflow
  rowCount :
    ∀ rows, mapping.expand overflow = .ok rows → rows.length = mapping.volume
  noRows : mapping.volume = 0 → mapping.expand overflow = .ok []
  rowsAtVisits :
    ∀ rows,
      mapping.expand overflow = .ok rows →
        rows = mapping.visits.map (valuesAt mapping.parameters)
  stops :
    0 < mapping.volume →
      ∀ fuel, mapping.volume ≤ fuel →
        countFrom fuel (mapping.bounds.map fun _ => 0) mapping.bounds = mapping.visits
  visitedOnce :
    ∀ cursor, List.Forall₂ (· < ·) cursor mapping.bounds → mapping.visits.count cursor = 1
  ascending : mapping.visits.Pairwise (· < ·)
  accessesInRange :
    ∀ cursor ∈ mapping.visits,
      List.Forall₂ (fun p index => index < p.values.length) mapping.parameters cursor
  nothingSkipped :
    ∀ cursor ∈ mapping.visits,
      (valuesAt mapping.parameters cursor).map some =
        List.zipWith (fun p index => p.values[index]?) mapping.parameters cursor

/--
While the product of the numbers of values fits into a machine word, and in a build that checks
products every product on the way to it, a mapping with parameters expands completely in cartesian
mode, or has no room for its rows because they are more than the row limit.
-/
theorem expandsCompletely_of_volume_lt
    (overflow : Overflow)
    (mapping : ArgumentMapping)
    (cartesian : mapping.mode = .cartesian)
    (declared : mapping.parameters ≠ [])
    (fits : mapping.volume < wordLimit)
    (stays : overflow = .panics → StaysInWord mapping.bounds) :
    ExpandsCompletely overflow mapping := by
  have visitsShape := visits_eq_indexVectors mapping
  have inRange :
      ∀ cursor ∈ mapping.visits, List.Forall₂ (· < ·) cursor mapping.bounds := by
    intro cursor member
    rw [visitsShape] at member
    exact mem_indexVectors.mp member
  have counted := count_eq_volume cartesian declared fits stays
  have expanded := expand_of_count cartesian counted
  have listed :
      mapping.volume ≤ rowLimit →
        mapping.expand overflow = .ok (nestedProduct (mapping.parameters.map (·.values))) := by
    intro room
    rw [expanded, if_pos room,
      combinations_eq_nestedProduct_of_volume_lt cartesian declared fits]
  have rowsAtVisits :
      ∀ rows,
        mapping.expand overflow = .ok rows →
          rows = mapping.visits.map (valuesAt mapping.parameters) := by
    intro rows expandedRows
    rw [eq_combinations_of_expand expandedRows]
    exact combinations_of_volume_lt cartesian declared fits
  have ascending : mapping.visits.Pairwise (· < ·) := by
    rw [visitsShape]
    exact pairwise_indexVectors mapping.bounds
  exact {
    counted := counted
    size := by
      rw [size_eq_volume_mod cartesian declared, Nat.mod_eq_of_lt fits]
    rows := listed
    noRoom := expand_of_rowLimit_lt cartesian declared fits stays
    rowCount := by
      intro rows expandedRows
      rw [rowsAtVisits rows expandedRows, visitsShape, List.length_map, length_indexVectors,
        volume]
    noRows := by
      intro nothing
      have room : mapping.volume ≤ rowLimit := by
        rw [nothing]
        exact Nat.zero_le _
      rw [expanded, if_pos room, combinations_of_volume_lt cartesian declared fits,
        visits_of_volume_eq_zero nothing, List.map_nil]
    rowsAtVisits := rowsAtVisits
    stops := by
      intro possible fuel enough
      rw [visitsShape]
      exact countFrom_zeros possible enough
    visitedOnce := by
      intro cursor cursorInRange
      refine List.count_eq_one_of_mem (ascending.imp ?_) ?_
      · intro first second smaller same
        exact List.lt_irrefl second (same ▸ smaller)
      · rw [visitsShape]
        exact mem_indexVectors.mpr cursorInRange
    ascending := ascending
    accessesInRange := by
      intro cursor member
      exact (List.forall₂_map_right_iff.mp (inRange cursor member)).flip
    nothingSkipped := by
      intro cursor member
      exact map_some_valuesAt (inRange cursor member) }

/-- Two, one and two values of three parameters. -/
def twoByOneByTwo : ArgumentMapping where
  mode := .cartesian
  parameters :=
    [ ⟨"a", [.text "0", .text "1"]⟩,
      ⟨"b", [.null]⟩,
      ⟨"c", [.text "p", .text "q"]⟩ ]
  fileNames := none
  rectangular := by simp

/-- The four rows of three parameters, with the indices at which they are read. -/
theorem expandsCompletely_twoByOneByTwo :
    twoByOneByTwo.mode = .cartesian ∧
      twoByOneByTwo.parameters ≠ [] ∧
      twoByOneByTwo.volume < wordLimit ∧
      StaysInWord twoByOneByTwo.bounds ∧
      ExpandsCompletely .panics twoByOneByTwo ∧
      twoByOneByTwo.visits = [[0, 0, 0], [0, 0, 1], [1, 0, 0], [1, 0, 1]] ∧
      twoByOneByTwo.expand .panics =
        .ok
          [ [.text "0", .null, .text "p"],
            [.text "0", .null, .text "q"],
            [.text "1", .null, .text "p"],
            [.text "1", .null, .text "q"] ] := by
  have declared : twoByOneByTwo.parameters ≠ [] := by
    simp [twoByOneByTwo]
  have stays : StaysInWord twoByOneByTwo.bounds := staysInWord_of_pos (by decide) (by decide)
  have complete :=
    expandsCompletely_of_volume_lt .panics twoByOneByTwo rfl declared (by decide) fun _ => stays
  exact ⟨rfl, declared, by decide, stays, complete, rfl, complete.rows (by decide)⟩

/-- Parameters with two values each. -/
def switches
    (count : Nat) :
    List Parameter :=
  List.replicate count ⟨"switch", [.boolean false, .boolean true]⟩

/-- Cartesian mode asks nothing of the numbers of values. -/
theorem rectangular_of_cartesian
    (parameters : List Parameter)
    (linear : MapperMode.cartesian = .linear) :
    Rectangular parameters := by
  cases linear

/-- The cartesian mapping of some parameters. -/
def crossing
    (parameters : List Parameter) :
    ArgumentMapping where
  mode := .cartesian
  parameters := parameters
  fileNames := none
  rectangular := rectangular_of_cartesian parameters

/-- Switches have two values each. -/
theorem bounds_crossing_switches
    (count : Nat) :
    (crossing (switches count)).bounds = List.replicate count 2 := by
  rw [bounds, crossing, switches, List.map_replicate]
  rfl

/-- Switches can be set in as many ways as there are powers of two. -/
theorem volume_crossing_switches
    (count : Nat) :
    (crossing (switches count)).volume = 2 ^ count := by
  rw [volume, bounds_crossing_switches, List.prod_replicate]

/--
Sixty switches can be set in fewer ways than a machine word counts, but there is no room for the
rows.  A parameter without values after sixty-four switches leaves no choice at all, but a build
that checks products panics before it comes to this parameter.
-/
theorem not_expand_sixtySwitches :
    (crossing (switches 60)).mode = .cartesian ∧
      (crossing (switches 60)).parameters ≠ [] ∧
      (crossing (switches 60)).volume < wordLimit ∧
      (∀ overflow,
        (crossing (switches 60)).expand overflow = .error .capacityOverflow ∧
          (crossing (switches 60)).expand overflow ≠
            .ok (nestedProduct ((crossing (switches 60)).parameters.map (·.values)))) ∧
      (crossing (switches 64 ++ [⟨"nothing", []⟩])).volume < wordLimit ∧
      (crossing (switches 64 ++ [⟨"nothing", []⟩])).expand .panics =
        .error .productOverflow := by
  have declared : (crossing (switches 60)).parameters ≠ [] := by
    simp [crossing, switches]
  have fits : (crossing (switches 60)).volume < wordLimit := by
    rw [volume_crossing_switches]
    decide
  have beyond : rowLimit < (crossing (switches 60)).volume := by
    rw [volume_crossing_switches]
    decide
  have stays : StaysInWord (crossing (switches 60)).bounds := by
    refine staysInWord_of_pos ?_ fits
    rw [bounds_crossing_switches]
    decide
  have noRoom :
      ∀ overflow, (crossing (switches 60)).expand overflow = .error .capacityOverflow :=
    fun _ => expand_of_rowLimit_lt rfl declared fits (fun _ => stays) beyond
  have bounds :
      (crossing (switches 64 ++ [⟨"nothing", []⟩])).bounds =
        (crossing (switches 64)).bounds ++ [0] :=
    List.map_append
  have nothing : (crossing (switches 64 ++ [⟨"nothing", []⟩])).volume = 0 := by
    rw [volume, bounds, List.prod_append, List.prod_singleton, Nat.mul_zero]
  have leaves : ¬ StaysInWord (crossing (switches 64 ++ [⟨"nothing", []⟩])).bounds := by
    rw [bounds]
    refine not_staysInWord_append _ ?_
    rw [← volume, volume_crossing_switches]
    decide
  have overflows := (count_panics rfl).2 leaves
  refine ⟨rfl, declared, fits, fun overflow => ⟨noRoom overflow, ?_⟩, ?_, ?_⟩
  · rw [noRoom]
    intro listed
    cases listed
  · rw [nothing]
    decide
  · exact expand_of_count_error rfl overflows

end ArgumentMapping

end BenchmarkOrchestration
