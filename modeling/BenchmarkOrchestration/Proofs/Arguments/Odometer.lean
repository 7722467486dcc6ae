import BenchmarkOrchestration.Arguments.Expansion
import Mathlib.Algebra.Group.Nat.Defs
import Mathlib.Data.List.Chain
import Mathlib.Data.List.Forall2
import Mathlib.Data.List.Range

namespace BenchmarkOrchestration

/-!
# Counting through all index vectors

The odometer starts with the index zero for every parameter and advances until no index can grow.
Its visits are the nested product of the index ranges, in which the first index varies slowest: each
vector of indices below the bounds is visited once, in lexicographic order, and the last visit is
the first vector that cannot be advanced.
-/

namespace ArgumentMapping

/-- All ways to choose one element of every list, the choice from the first list varying slowest. -/
def nestedProduct : List (List α) → List (List α)
  | [] => [[]]
  | values :: rest =>
      values.flatMap fun value => (nestedProduct rest).map (value :: ·)

/-- All vectors of indices below the given bounds. -/
def indexVectors
    (bounds : List Nat) :
    List (List Nat) :=
  nestedProduct (bounds.map List.range)

/-- The nested product has as many rows as the product of the lengths says. -/
theorem length_nestedProduct
    (lists : List (List α)) :
    (nestedProduct lists).length = (lists.map List.length).prod := by
  induction lists with
  | nil =>
      rfl
  | cons values rest inductionHypothesis =>
      simp [nestedProduct, List.length_flatMap, inductionHypothesis]

/-- The index vectors with a bound in front are those without it behind each index in turn. -/
theorem indexVectors_cons
    (bound : Nat)
    (bounds : List Nat) :
    indexVectors (bound :: bounds) =
      (List.range bound).flatMap fun index => (indexVectors bounds).map (index :: ·) :=
  rfl

/-- There are as many index vectors as the product of the bounds says. -/
theorem length_indexVectors
    (bounds : List Nat) :
    (indexVectors bounds).length = bounds.prod := by
  simp [indexVectors, length_nestedProduct, Function.comp_def]

/-- The index vectors are exactly the vectors whose indices stay below their bounds. -/
theorem mem_indexVectors
    {cursor bounds : List Nat} :
    cursor ∈ indexVectors bounds ↔ List.Forall₂ (· < ·) cursor bounds := by
  induction bounds generalizing cursor with
  | nil =>
      simp [indexVectors, nestedProduct]
  | cons bound bounds inductionHypothesis =>
      simp only [indexVectors_cons, List.mem_flatMap, List.mem_range, List.mem_map,
        inductionHypothesis, List.forall₂_cons_right_iff]
      constructor
      · rintro ⟨index, below, rest, inRange, rfl⟩
        exact ⟨index, rest, below, inRange, rfl⟩
      · rintro ⟨index, rest, below, inRange, rfl⟩
        exact ⟨index, below, rest, inRange, rfl⟩

/-- The index vectors are listed in strictly increasing lexicographic order. -/
theorem pairwise_indexVectors
    (bounds : List Nat) :
    (indexVectors bounds).Pairwise (· < ·) := by
  induction bounds with
  | nil =>
      simp [indexVectors, nestedProduct]
  | cons bound bounds inductionHypothesis =>
      rw [indexVectors_cons, List.pairwise_flatMap]
      constructor
      · intro index _
        rw [List.pairwise_map]
        refine inductionHypothesis.imp ?_
        intro first second earlier
        exact List.cons_lt_cons_iff.mpr (.inr ⟨rfl, earlier⟩)
      · refine List.pairwise_lt_range.imp ?_
        intro index later smaller first firstMember second secondMember
        obtain ⟨_, _, rfl⟩ := List.mem_map.mp firstMember
        obtain ⟨_, _, rfl⟩ := List.mem_map.mp secondMember
        exact List.cons_lt_cons_iff.mpr (.inl smaller)

/-- The first index vector consists of zeros. -/
theorem head?_indexVectors
    {bounds : List Nat}
    (positive : ∀ bound ∈ bounds, 0 < bound) :
    (indexVectors bounds).head? = some (bounds.map fun _ => 0) := by
  induction bounds with
  | nil =>
      rfl
  | cons bound bounds inductionHypothesis =>
      obtain ⟨boundPositive, restPositive⟩ := List.forall_mem_cons.mp positive
      obtain ⟨count, rfl⟩ := Nat.exists_eq_succ_of_ne_zero boundPositive.ne'
      simp [indexVectors_cons, List.range_succ_eq_map, List.head?_append,
        inductionHypothesis restPositive]

/-- In the last index vector every index has reached the end of its range. -/
theorem getLast?_indexVectors
    {bounds : List Nat}
    (positive : ∀ bound ∈ bounds, 0 < bound) :
    (indexVectors bounds).getLast? = some (bounds.map (· - 1)) := by
  induction bounds with
  | nil =>
      rfl
  | cons bound bounds inductionHypothesis =>
      obtain ⟨boundPositive, restPositive⟩ := List.forall_mem_cons.mp positive
      obtain ⟨count, rfl⟩ := Nat.exists_eq_succ_of_ne_zero boundPositive.ne'
      simp [indexVectors_cons, List.range_succ, List.getLast?_append,
        inductionHypothesis restPositive]

/-- One index grows or starts again, and then the one before it is tried. -/
theorem carry?_succ
    (bounds : List Nat)
    (digit : Nat)
    (cursor : List Nat) :
    carry? bounds (digit + 1) cursor =
      if cursor.getD digit 0 + 1 < bounds.getD digit 0 then
        some (cursor.set digit (cursor.getD digit 0 + 1))
      else
        carry? bounds digit (cursor.set digit 0) :=
  rfl

/--
With an index in front, the others carry as without it.  If none of them can grow, they have all
started again, and the index in front grows if it can.
-/
theorem carry?_cons
    (index bound : Nat)
    (bounds : List Nat)
    {digit : Nat}
    {cursor : List Nat}
    (inside : digit ≤ cursor.length) :
    carry? (bound :: bounds) (digit + 1) (index :: cursor) =
      match carry? bounds digit cursor with
      | some next => some (index :: next)
      | none =>
          if index + 1 < bound then
            some ((index + 1) :: (List.replicate digit 0 ++ cursor.drop digit))
          else
            none := by
  induction digit generalizing cursor with
  | zero =>
      simp [carry?]
  | succ digit inductionHypothesis =>
      rw [carry?_succ _ (digit + 1), carry?_succ bounds digit]
      simp only [List.getD_cons_succ, List.set_cons_succ]
      split
      · rfl
      · have setBack :
            List.replicate digit 0 ++ (cursor.set digit 0).drop digit =
              List.replicate (digit + 1) 0 ++ cursor.drop (digit + 1) := by
          rw [List.drop_set, if_neg (Nat.lt_irrefl digit), List.drop_eq_getElem_cons inside,
            Nat.sub_self, List.set_cons_zero, List.replicate_succ', List.append_assoc]
          rfl
        rw [inductionHypothesis (by rw [List.length_set]; omega), setBack]

/-- Advancing goes by recursion from the first index, as the nested product does. -/
theorem advance?_cons
    (index bound : Nat)
    (cursor bounds : List Nat) :
    advance? (index :: cursor) (bound :: bounds) =
      match advance? cursor bounds with
      | some next => some (index :: next)
      | none =>
          if index + 1 < bound then
            some ((index + 1) :: cursor.map fun _ => 0)
          else
            none := by
  rw [advance?, List.length_cons, carry?_cons index bound bounds (Nat.le_refl _),
    List.drop_length, List.append_nil, ← List.map_const']
  rfl

/-- A vector whose indices have all reached the end of their ranges cannot be advanced. -/
theorem advance?_last
    (bounds : List Nat) :
    advance? (bounds.map (· - 1)) bounds = none := by
  induction bounds with
  | nil =>
      rfl
  | cons bound bounds inductionHypothesis =>
      simp only [List.map_cons, advance?_cons, inductionHypothesis]
      exact if_neg (by omega)

/-- Advancing a vector leads from each index vector to the next one of the list. -/
theorem isChain_indexVectors
    {bounds : List Nat}
    (positive : ∀ bound ∈ bounds, 0 < bound) :
    (indexVectors bounds).IsChain fun cursor next => advance? cursor bounds = some next := by
  induction bounds with
  | nil =>
      simp [indexVectors, nestedProduct]
  | cons bound bounds inductionHypothesis =>
      obtain ⟨_, restPositive⟩ := List.forall_mem_cons.mp positive
      have first := head?_indexVectors restPositive
      have last := getLast?_indexVectors restPositive
      have nonempty : indexVectors bounds ≠ [] := by
        intro empty
        simp [empty] at first
      rw [indexVectors_cons, List.flatMap_def, List.isChain_flatten (by simp [nonempty])]
      constructor
      · -- Within one index of the first parameter, the others advance as without it.
        intro block member
        obtain ⟨index, _, rfl⟩ := List.mem_map.mp member
        rw [List.isChain_map]
        refine (inductionHypothesis restPositive).imp ?_
        intro cursor next advances
        simp only [advance?_cons, advances]
      · -- Between two blocks the others have reached their ends, so the first index grows.
        rw [List.isChain_map, List.isChain_range]
        intro index below cursor cursorLast next nextFirst
        simp only [List.getLast?_map, last, List.head?_map, first, Option.map_some,
          Option.mem_def, Option.some.injEq] at cursorLast nextFirst
        subst cursorLast nextFirst
        have grows : index + 1 < bound := by omega
        simp [advance?_cons, advance?_last, grows, Function.comp_def]

/-- Counting from the start of a chain that ends with a vector at its end lists the chain. -/
theorem countFrom_eq_of_isChain
    {bounds first : List Nat}
    {rest : List (List Nat)}
    {fuel : Nat}
    (chain : (first :: rest).IsChain fun cursor next => advance? cursor bounds = some next)
    (ends : ∀ last ∈ (first :: rest).getLast?, advance? last bounds = none)
    (enough : rest.length < fuel) :
    countFrom fuel first bounds = first :: rest := by
  induction rest generalizing first fuel with
  | nil =>
      obtain ⟨more, rfl⟩ := Nat.exists_eq_succ_of_ne_zero (Nat.ne_zero_of_lt enough)
      have stops : advance? first bounds = none := ends first rfl
      simp [countFrom, stops]
  | cons next rest inductionHypothesis =>
      obtain ⟨more, rfl⟩ := Nat.exists_eq_succ_of_ne_zero (Nat.ne_zero_of_lt enough)
      obtain ⟨advances, restChain⟩ := List.isChain_cons_cons.mp chain
      have restCounted : countFrom more next bounds = next :: rest :=
        inductionHypothesis restChain
          (by simpa [List.getLast?_cons_cons] using ends)
          (by simpa using enough)
      simp [countFrom, advances, restCounted]

/--
If there are index vectors, the odometer visits them and then stops by itself: it does so with any
bound on the number of visits that lets it come to its end.
-/
theorem countFrom_zeros
    {bounds : List Nat}
    {fuel : Nat}
    (possible : 0 < bounds.prod)
    (enough : bounds.prod ≤ fuel) :
    countFrom fuel (bounds.map fun _ => 0) bounds = indexVectors bounds := by
  have positive := List.prod_pos_iff_forall_pos_nat.mp possible
  have first := head?_indexVectors positive
  have chain := isChain_indexVectors positive
  have last := getLast?_indexVectors positive
  have count := length_indexVectors bounds
  cases visits : indexVectors bounds with
  | nil =>
      simp [visits] at first
  | cons start rest =>
      rw [visits] at first chain last count
      obtain rfl : start = bounds.map fun _ => 0 := by simpa using first
      refine countFrom_eq_of_isChain chain ?_ ?_
      · intro cursor cursorLast
        rw [last, Option.mem_some_iff] at cursorLast
        subst cursorLast
        exact advance?_last bounds
      · rw [List.length_cons] at count
        omega

end ArgumentMapping

end BenchmarkOrchestration
