import BenchmarkOrchestration.Proofs.Arguments.Cartesian
import BenchmarkOrchestration.Proofs.Arguments.Linear
import BenchmarkOrchestration.Proofs.Text.Pieces

namespace BenchmarkOrchestration

/-!
# Invocations as texts

An invocation is written with a space between its values.  While no value has a space when it is
rendered, each text is taken apart into the values that it was made of, empty ones included.  So the
texts of a cartesian expansion are as distinct as the values of each of its parameters are.
-/

namespace ArgumentMapping

/-- A row of the nested product has one element of each list. -/
theorem mem_nestedProduct
    {lists : List (List α)}
    {row : List α} :
    row ∈ nestedProduct lists ↔ List.Forall₂ (· ∈ ·) row lists := by
  induction lists generalizing row with
  | nil =>
      simp [nestedProduct]
  | cons values rest inductionHypothesis =>
      simp only [nestedProduct, List.mem_flatMap, List.mem_map, inductionHypothesis,
        List.forall₂_cons_right_iff]
      constructor
      · rintro ⟨value, member, others, chosen, rfl⟩
        exact ⟨value, others, member, chosen, rfl⟩
      · rintro ⟨value, others, member, chosen, rfl⟩
        exact ⟨value, member, others, chosen, rfl⟩

/-- Rewriting the elements of all rows is rewriting those of the lists. -/
theorem map_nestedProduct
    (rewrite : α → β)
    (lists : List (List α)) :
    (nestedProduct lists).map (List.map rewrite) =
      nestedProduct (lists.map (List.map rewrite)) := by
  induction lists with
  | nil =>
      rfl
  | cons values rest inductionHypothesis =>
      rw [List.map_cons, nestedProduct, nestedProduct, ← inductionHypothesis, List.map_flatMap,
        List.flatMap_map]
      simp only [List.map_map, Function.comp_def, List.map_cons]

/-- The nested product is empty exactly if one of the lists is. -/
theorem nestedProduct_eq_nil_iff
    {lists : List (List α)} :
    nestedProduct lists = [] ↔ [] ∈ lists := by
  rw [← List.length_eq_zero_iff, length_nestedProduct, List.prod_eq_zero_iff_exists_zero_nat]
  simp

/-- Rows are distinct exactly if there is none or the elements of each list are distinct. -/
theorem nodup_nestedProduct_iff
    {lists : List (List α)} :
    (nestedProduct lists).Nodup ↔ [] ∈ lists ∨ ∀ values ∈ lists, values.Nodup := by
  induction lists with
  | nil =>
      simp [nestedProduct]
  | cons values rest inductionHypothesis =>
      constructor
      · intro distinct
        rw [nestedProduct, List.nodup_flatMap] at distinct
        obtain ⟨ofValue, apart⟩ := distinct
        by_cases none : [] ∈ values :: rest
        · exact .inl none
        rw [List.mem_cons, not_or] at none
        obtain ⟨value, valueMember⟩ := List.exists_mem_of_ne_nil values (Ne.symm none.1)
        obtain ⟨row, rowMember⟩ :=
          List.exists_mem_of_ne_nil _ (mt nestedProduct_eq_nil_iff.mp none.2)
        have restDistinct := (ofValue value valueMember).of_map _
        have valuesDistinct : values.Nodup := by
          refine apart.imp ?_
          rintro first second disjoint rfl
          exact disjoint (List.mem_map_of_mem rowMember) (List.mem_map_of_mem rowMember)
        refine .inr ?_
        rw [List.forall_mem_cons]
        exact ⟨valuesDistinct, (inductionHypothesis.mp restDistinct).resolve_left none.2⟩
      · rintro (none | distinct)
        · rw [nestedProduct_eq_nil_iff.mpr none]
          exact List.nodup_nil
        · rw [List.forall_mem_cons] at distinct
          have restDistinct := inductionHypothesis.mpr (.inr distinct.2)
          rw [nestedProduct, List.nodup_flatMap]
          refine ⟨fun value _ => restDistinct.map (List.cons_injective), distinct.1.imp ?_⟩
          intro first second differ row inFirst inSecond
          obtain ⟨_, _, rfl⟩ := List.mem_map.mp inFirst
          obtain ⟨_, _, same⟩ := List.mem_map.mp inSecond
          exact differ (List.cons.inj same).1.symm

/-- Every row has one value of each parameter, in the order of the parameters. -/
theorem forall₂_of_mem_combinations
    {mapping : ArgumentMapping}
    (declared : mapping.parameters ≠ [])
    {row : List Json.Value}
    (member : row ∈ mapping.combinations) :
    List.Forall₂ (fun p value => value ∈ p.values) mapping.parameters row := by
  cases mode : mapping.mode with
  | linear =>
      obtain ⟨count, rows⟩ := exists_linearRows mode declared
      obtain ⟨index, below, rfl⟩ := List.mem_iff_getElem.mp member
      rw [rows.rowCount] at below
      obtain ⟨values, found, ofEach⟩ := rows.rows index below
      rw [List.getElem?_eq_getElem (rows.rowCount.symm ▸ below), Option.some.injEq] at found
      rw [found]
      exact ofEach.imp fun p value valueFound => List.mem_of_getElem? valueFound
  | cartesian =>
      rw [combinations_eq_nestedProduct mode declared] at member
      split at member
      · cases member
      · rw [mem_nestedProduct] at member
        exact (List.forall₂_map_right_iff.mp member).flip

/-- What holds of all values of the table holds of the values of a row. -/
theorem forall_of_mem_combinations
    {mapping : ArgumentMapping}
    (declared : mapping.parameters ≠ [])
    {row : List Json.Value}
    (member : row ∈ mapping.combinations)
    {property : Json.Value → Prop}
    (ofTable : ∀ p ∈ mapping.parameters, ∀ value ∈ p.values, property value) :
    ∀ value ∈ row, property value := by
  have ofEach := forall₂_of_mem_combinations declared member
  have ofRow : List.Forall₂ (fun value _ => property value ∧ True) row mapping.parameters := by
    refine ((List.forall₂_and_left _ _).mpr ⟨ofTable, ofEach⟩).flip.imp ?_
    rintro value p ⟨ofParameter, valueMember⟩
    exact ⟨ofParameter value valueMember, trivial⟩
  exact ((List.forall₂_and_left _ _).mp ofRow).1

/-- The text of an invocation is taken apart into the texts of its values. -/
theorem map_splitText_asList
    {mapping : ArgumentMapping}
    (declared : mapping.parameters ≠ [])
    (unspaced :
      ∀ p ∈ mapping.parameters, ∀ value ∈ p.values, ' ' ∉ (ArgumentValue.render value).toList) :
    mapping.asList.map (splitText ' ') =
      mapping.combinations.map (List.map ArgumentValue.render) := by
  have isSign : separator.toList = [' '] := by decide
  rw [asList, List.map_map]
  refine List.map_congr_left ?_
  intro row member
  have rowUnspaced := forall_of_mem_combinations declared member unspaced
  cases row with
  | nil =>
      have ofEach := forall₂_of_mem_combinations declared member
      exact absurd (List.forall₂_nil_right_iff.mp ofEach) declared
  | cons value values =>
      refine splitText_intercalate isSign ?_
      rw [← List.map_cons, List.forall_mem_map]
      exact rowUnspaced

/-- Texts that are taken apart into the rendered rows are distinct exactly if these are. -/
theorem nodup_asList_iff
    {mapping : ArgumentMapping}
    (takenApart :
      mapping.asList.map (splitText ' ') =
        mapping.combinations.map (List.map ArgumentValue.render)) :
    mapping.asList.Nodup ↔
      (mapping.combinations.map (List.map ArgumentValue.render)).Nodup := by
  have joined :
      mapping.asList =
        (mapping.combinations.map (List.map ArgumentValue.render)).map separator.intercalate := by
    rw [asList, List.map_map]
    rfl
  constructor
  · intro distinct
    rw [joined] at distinct
    exact distinct.of_map _
  · intro distinct
    rw [← takenApart] at distinct
    exact distinct.of_map _

/--
What the texts of a mapping tell.  They are taken apart into the values of the rows, which are the
rows of the table as long as there is room for them, and in cartesian mode they are distinct exactly
if there is no row or the values of each parameter are rendered distinctly.
-/
structure TellsInvocations
    (mapping : ArgumentMapping) :
    Prop where
  takenApart :
    mapping.asList.map (splitText ' ') =
      mapping.combinations.map (List.map ArgumentValue.render)
  expanded :
    ∀ overflow rows texts,
      mapping.expand overflow = .ok rows →
        (RunArguments.mapped mapping).expand overflow = .ok texts →
          texts = mapping.asList ∧
            texts.map (splitText ' ') = rows.map (List.map ArgumentValue.render)
  linearRows : mapping.mode = .linear → ∃ count, LinearRows mapping count
  cartesianRows :
    mapping.mode = .cartesian →
      mapping.expand .wraps =
        if mapping.volume ≤ rowLimit then
          .ok (nestedProduct (mapping.parameters.map (·.values)))
        else
          .error .capacityOverflow
  distinct_iff :
    mapping.mode = .cartesian →
      (mapping.asList.Nodup ↔
        (∃ p ∈ mapping.parameters, p.values = []) ∨
          ∀ p ∈ mapping.parameters, (p.values.map ArgumentValue.render).Nodup)

/--
A mapping with parameters whose rendered values have no space tells its invocations, while in
cartesian mode a machine word holds their number.
-/
theorem tellsInvocations_of_unspaced
    (mapping : ArgumentMapping)
    (declared : mapping.parameters ≠ [])
    (fits : mapping.mode = .cartesian → mapping.volume < wordLimit)
    (unspaced :
      ∀ p ∈ mapping.parameters, ∀ value ∈ p.values, ' ' ∉ (ArgumentValue.render value).toList) :
    TellsInvocations mapping := by
  have takenApart := map_splitText_asList declared unspaced
  have rows :
      mapping.mode = .cartesian →
        mapping.combinations = nestedProduct (mapping.parameters.map (·.values)) := by
    intro cartesian
    exact combinations_eq_nestedProduct_of_volume_lt cartesian declared (fits cartesian)
  refine ⟨takenApart, ?_, fun linear => exists_linearRows linear declared, ?_, ?_⟩
  · intro overflow listed texts expandedRows expandedTexts
    have sameTexts : texts = mapping.asList := RunArguments.eq_asList_of_expand expandedTexts
    refine ⟨sameTexts, ?_⟩
    rw [sameTexts, eq_combinations_of_expand expandedRows]
    exact takenApart
  · intro cartesian
    have counted := count_wraps cartesian declared
    rw [Nat.mod_eq_of_lt (fits cartesian)] at counted
    rw [expand_of_count cartesian counted, rows cartesian]
  · intro cartesian
    rw [nodup_asList_iff takenApart, rows cartesian, map_nestedProduct, nodup_nestedProduct_iff]
    simp [Function.comp_def]

/-- Two parameters with a null and an empty text among their values. -/
def emptyValues : ArgumentMapping where
  mode := .cartesian
  parameters := [⟨"x", [.null, .text "a"]⟩, ⟨"y", [.text "", .boolean true]⟩]
  fileNames := none
  rectangular := by simp

/-- Empty values are told from the spaces around them. -/
theorem tellsInvocations_of_unspaced_emptyValues :
    emptyValues.parameters ≠ [] ∧
      emptyValues.volume < wordLimit ∧
      (∀ p ∈ emptyValues.parameters, ∀ value ∈ p.values,
        ' ' ∉ (ArgumentValue.render value).toList) ∧
      TellsInvocations emptyValues ∧
      emptyValues.asList = [" ", " true", "a ", "a true"] ∧
      emptyValues.asList.map (splitText ' ') =
        [["", ""], ["", "true"], ["a", ""], ["a", "true"]] := by
  have unspaced :
      ∀ p ∈ emptyValues.parameters, ∀ value ∈ p.values,
        ' ' ∉ (ArgumentValue.render value).toList := by
    decide +kernel
  exact ⟨by decide, by decide, unspaced,
    tellsInvocations_of_unspaced emptyValues (by decide) (fun _ => by decide) unspaced,
    by decide +kernel, by decide +kernel⟩

end ArgumentMapping

end BenchmarkOrchestration
