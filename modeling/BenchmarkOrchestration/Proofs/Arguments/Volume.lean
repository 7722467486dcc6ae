import BenchmarkOrchestration.Model.Item
import Mathlib.Algebra.BigOperators.Group.List.Basic

namespace BenchmarkOrchestration

/-!
# The volume of a table

The volume of a table is the number of ways to choose a value for every parameter.  A build of the
program that lets products wrap around counts the volume up to multiples of the word limit; one
that checks them counts it as it is, and panics when the product of the first numbers of values
leaves the word.  An expansion lists its rows exactly if the count is within the row limit.
-/

namespace ArgumentMapping

/-- A machine word holds the product of the counts up to multiples of its limit. -/
theorem wordProduct_eq_prod_mod
    (counts : List Nat) :
    wordProduct counts = counts.prod % wordLimit := by
  -- The total so far is reduced already, which holds of the one at the start.
  have reduced :
      ∀ total, total % wordLimit = total →
        counts.foldl (fun total count => total * count % wordLimit) total =
          total * counts.prod % wordLimit := by
    induction counts with
    | nil =>
        intro total small
        simp [small]
    | cons count counts inductionHypothesis =>
        intro total _
        rw [List.foldl_cons, inductionHypothesis _ (Nat.mod_mod _ _), List.prod_cons,
          Nat.mod_mul_mod, Nat.mul_assoc]
  simpa [wordProduct] using reduced 1 rfl

/-- The product of the first counts is below the word limit, however many are taken. -/
def StaysInWord
    (counts : List Nat) :
    Prop :=
  ∀ first, first <+: counts → first.prod < wordLimit

/-- Counts leave the word if the product of the first ones does. -/
theorem not_staysInWord_append
    {first : List Nat}
    (rest : List Nat)
    (large : wordLimit ≤ first.prod) :
    ¬ StaysInWord (first ++ rest) := by
  intro stays
  have small := stays first (List.prefix_append first rest)
  exact absurd small (Nat.not_lt.mpr large)

/-- Counts whose products never shrink stay in the word if their product does. -/
theorem staysInWord_of_pos
    {counts : List Nat}
    (positive : ∀ count ∈ counts, 0 < count)
    (fits : counts.prod < wordLimit) :
    StaysInWord counts := by
  rintro first ⟨rest, rfl⟩
  rw [List.prod_append] at fits
  have restPositive : 0 < rest.prod := by
    refine Nat.pos_of_ne_zero ?_
    rw [Ne, List.prod_eq_zero_iff_exists_zero_nat]
    intro missing
    obtain ⟨count, member, none⟩ := missing
    have here := positive count (List.mem_append_right first member)
    exact Nat.ne_of_gt here none
  exact Nat.lt_of_le_of_lt (Nat.le_mul_of_pos_right _ restPositive) fits

/-- A total times the first counts is below the word limit, however many are taken. -/
def StaysInWordFrom
    (total : Nat)
    (counts : List Nat) :
    Prop :=
  ∀ first, first <+: counts → total * first.prod < wordLimit

/-- A total stays in the word with the counts if it does with the first one and then the others. -/
theorem staysInWordFrom_cons_iff
    {total count : Nat}
    {counts : List Nat}
    (below : total < wordLimit) :
    StaysInWordFrom total (count :: counts) ↔ StaysInWordFrom (total * count) counts := by
  constructor
  · intro stays first isPrefix
    have longer := stays (count :: first) (List.cons_prefix_cons.mpr ⟨rfl, isPrefix⟩)
    rwa [List.prod_cons, ← Nat.mul_assoc] at longer
  · intro stays first isPrefix
    cases first with
    | nil =>
        rwa [List.prod_nil, Nat.mul_one]
    | cons head tail =>
        obtain ⟨rfl, tailPrefix⟩ := List.cons_prefix_cons.mp isPrefix
        rw [List.prod_cons, ← Nat.mul_assoc]
        exact stays tail tailPrefix

/-- Counts are multiplied to a total until the first product that leaves the word. -/
theorem foldlM_checkedTimes
    {total : Nat}
    (below : total < wordLimit)
    (counts : List Nat) :
    (StaysInWordFrom total counts →
        counts.foldlM checkedTimes total = .ok (total * counts.prod)) ∧
      (¬ StaysInWordFrom total counts →
        counts.foldlM checkedTimes total = .error .productOverflow) := by
  induction counts generalizing total with
  | nil =>
      constructor
      · intro _
        rw [List.prod_nil, Nat.mul_one]
        rfl
      · intro leaves
        refine absurd ?_ leaves
        intro first isPrefix
        rwa [List.prefix_nil.mp isPrefix, List.prod_nil, Nat.mul_one]
  | cons count counts inductionHypothesis =>
      rw [staysInWordFrom_cons_iff below, List.foldlM_cons, checkedTimes]
      by_cases next : total * count < wordLimit
      · rw [if_pos next, List.prod_cons, ← Nat.mul_assoc]
        exact inductionHypothesis next
      · rw [if_neg next]
        constructor
        · intro stays
          have here := stays [] List.nil_prefix
          rw [List.prod_nil, Nat.mul_one] at here
          exact absurd here next
        · intro _
          rfl

/-- A checked product is the product of the counts if these stay in the word, and else a panic. -/
theorem checkedProduct_cases
    (counts : List Nat) :
    (StaysInWord counts → checkedProduct counts = .ok counts.prod) ∧
      (¬ StaysInWord counts → checkedProduct counts = .error .productOverflow) := by
  have fromOne := @foldlM_checkedTimes 1 (by decide) counts
  simp only [StaysInWordFrom, Nat.one_mul] at fromOne
  exact fromOne

/-- The numbers of values of the parameters. -/
def bounds
    (mapping : ArgumentMapping) :
    List Nat :=
  mapping.parameters.map (·.values.length)

/-- The number of ways to choose a value for every parameter. -/
def volume
    (mapping : ArgumentMapping) :
    Nat :=
  mapping.bounds.prod

section

variable {mapping : ArgumentMapping}

/-- In linear mode there is always room for the rows. -/
theorem expand_of_linear
    (linear : mapping.mode = .linear)
    (overflow : Overflow) :
    mapping.expand overflow = .ok mapping.combinations := by
  simp only [expand, panic?, linear]

/-- What an expansion lists are the combinations. -/
theorem eq_combinations_of_expand
    {overflow : Overflow}
    {rows : List (List Json.Value)}
    (expanded : mapping.expand overflow = .ok rows) :
    rows = mapping.combinations := by
  rw [expand] at expanded
  split at expanded
  · cases expanded
  · exact (Except.ok.inj expanded).symm

variable (cartesian : mapping.mode = .cartesian)

include cartesian

/-- An expansion panics where its rows cannot be counted. -/
theorem expand_of_count_error
    {overflow : Overflow}
    {panic : ExpansionPanic}
    (uncounted : mapping.count overflow = .error panic) :
    mapping.expand overflow = .error panic := by
  simp only [expand, panic?, cartesian, uncounted]

/-- What is counted decides whether there is room for the rows. -/
theorem expand_of_count
    {overflow : Overflow}
    {total : Nat}
    (counted : mapping.count overflow = .ok total) :
    mapping.expand overflow =
      if total ≤ rowLimit then .ok mapping.combinations else .error .capacityOverflow := by
  by_cases room : total ≤ rowLimit
  · simp only [expand, panic?, cartesian, counted, if_neg (Nat.not_lt.mpr room), if_pos room]
  · simp only [expand, panic?, cartesian, counted, if_pos (Nat.lt_of_not_le room), if_neg room]

/-- A build that checks products counts the volume, or panics. -/
theorem count_panics :
    (StaysInWord mapping.bounds → mapping.count .panics = .ok mapping.volume) ∧
      (¬ StaysInWord mapping.bounds → mapping.count .panics = .error .productOverflow) := by
  simp only [count, cartesian]
  exact checkedProduct_cases mapping.bounds

variable (declared : mapping.parameters ≠ [])

include declared

/-- In cartesian mode with parameters, the size is the word that holds the product. -/
theorem size_of_cartesian :
    mapping.size = wordProduct mapping.bounds := by
  obtain ⟨first, rest, shape⟩ := List.exists_cons_of_ne_nil declared
  simp [size, bounds, cartesian, shape]

/-- In cartesian mode with parameters, the size is what a machine word holds of the volume. -/
theorem size_eq_volume_mod :
    mapping.size = mapping.volume % wordLimit := by
  rw [size_of_cartesian cartesian declared, wordProduct_eq_prod_mod, volume]

/-- A build that lets products wrap around counts what a machine word holds of the volume. -/
theorem count_wraps :
    mapping.count .wraps = .ok (mapping.volume % wordLimit) := by
  rw [← size_eq_volume_mod cartesian declared]
  rfl

end

end ArgumentMapping

/-- The texts that arguments are expanded to are those of the combinations. -/
theorem RunArguments.eq_asList_of_expand
    {arguments : RunArguments}
    {overflow : Overflow}
    {texts : List String}
    (expanded : arguments.expand overflow = .ok texts) :
    texts = arguments.asList := by
  rw [expand] at expanded
  split at expanded
  · cases expanded
  · exact (Except.ok.inj expanded).symm

end BenchmarkOrchestration
