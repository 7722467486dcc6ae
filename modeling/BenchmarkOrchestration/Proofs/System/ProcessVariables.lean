import BenchmarkOrchestration.Proofs.Document.Results
import BenchmarkOrchestration.System.Machine
import Mathlib.Data.List.Induction

namespace BenchmarkOrchestration

/-!
# The variables of a process

A process is started with the variables of its machine, some of them set anew by pairs of a name and
a value.  The pairs are applied in order, so that of several pairs with one name the last one counts.
-/

/-- What pairs set a name to when they are applied in order: the last pair of the name counts. -/
def lastSet?
    (pairs : List (String × String))
    (name : String) :
    Option String :=
  pairs.reverse.lookup name

/-- What is set later counts, and otherwise what was set before. -/
theorem lastSet?_append
    (first second : List (String × String))
    (name : String) :
    lastSet? (first ++ second) name = (lastSet? second name).or (lastSet? first name) := by
  rw [lastSet?, List.reverse_append, List.lookup_append]
  rfl

/-- Another pair sets its own name and leaves the other ones. -/
theorem lastSet?_append_singleton
    (pairs : List (String × String))
    (pair : String × String)
    (name : String) :
    lastSet? (pairs ++ [pair]) name = if name = pair.1 then some pair.2 else lastSet? pairs name := by
  rw [lastSet?_append, lastSet?, List.reverse_singleton, List.lookup_cons]
  by_cases same : name = pair.1
  · rw [if_pos same, beq_iff_eq.mpr same, Option.some_or]
  · rw [if_neg same, beq_eq_false_iff_ne.mpr same]
    rfl

/-- A name is not set exactly if there is no pair of this name. -/
theorem lastSet?_eq_none_iff
    {pairs : List (String × String)}
    {name : String} :
    lastSet? pairs name = none ↔ name ∉ pairs.map Prod.fst := by
  rw [lastSet?, List.lookup_eq_none_iff]
  simp only [List.mem_reverse, bne_iff_ne, List.mem_map, not_exists, not_and,
    ne_comm (a := name), ne_eq]

/-- A name is set to the value of a pair behind which no pair has the name. -/
theorem lastSet?_eq_some_iff
    {pairs : List (String × String)}
    {name value : String} :
    lastSet? pairs name = some value ↔
      ∃ before after,
        pairs = before ++ (name, value) :: after ∧ name ∉ after.map Prod.fst := by
  constructor
  · intro set
    obtain ⟨after, before, split, unset⟩ := List.lookup_eq_some_iff.mp set
    refine ⟨before.reverse, after.reverse, ?_, ?_⟩
    · rw [← List.reverse_reverse pairs, split]
      simp
    · intro listed
      obtain ⟨pair, member, same⟩ := List.mem_map.mp listed
      exact bne_iff_ne.mp (unset pair (List.mem_reverse.mp member)) same.symm
  · rintro ⟨before, after, rfl, unset⟩
    rw [List.append_cons, lastSet?_append, lastSet?_eq_none_iff.mpr unset, Option.none_or,
      lastSet?_append_singleton, if_pos rfl]

/-- What is found under a name does not depend on the pairs of another name. -/
theorem lookup_filter_of_ne
    {name other : String}
    (differ : name ≠ other)
    (pairs : List (String × α)) :
    (pairs.filter fun pair => pair.1 ≠ other).lookup name = pairs.lookup name := by
  induction pairs with
  | nil =>
      rfl
  | cons first rest inductionHypothesis =>
      by_cases dropped : first.1 = other
      · have unseen : (name == first.1) = false := by
          rw [dropped]
          exact beq_eq_false_iff_ne.mpr differ
        rw [List.filter_cons_of_neg (by simpa using dropped), inductionHypothesis,
          List.lookup_cons, unseen]
      · rw [List.filter_cons_of_pos (by simpa using dropped), List.lookup_cons, List.lookup_cons,
          inductionHypothesis]

/-- A name that no other name has the form of is looked up in another form as it is itself. -/
theorem lookup_map_of_forms_apart
    [BEq β]
    [LawfulBEq β]
    {form : String → β}
    (make : α → γ)
    {pairs : List (String × α)}
    {name : String}
    (apart : ∀ other ∈ pairs.map Prod.fst, form other = form name → other = name) :
    (pairs.map fun pair => (form pair.1, make pair.2)).lookup (form name) =
      (pairs.lookup name).map make := by
  induction pairs with
  | nil =>
      rfl
  | cons first rest inductionHypothesis =>
      obtain ⟨apartFirst, apartRest⟩ := List.forall_mem_cons.mp apart
      rw [List.map_cons, List.lookup_cons, List.lookup_cons, inductionHypothesis apartRest]
      by_cases same : name = first.1
      · simp [same]
      · have differ : form name ≠ form first.1 := fun equal => same (apartFirst equal.symm).symm
        simp [beq_eq_false_iff_ne.mpr same, beq_eq_false_iff_ne.mpr differ]

namespace Octets

/-- The bytes of an array from a place on are listed behind those before it. -/
theorem toList_loop_eq
    (bytes : ByteArray)
    (place : Nat)
    (before : List UInt8) :
    ByteArray.toList.loop bytes place before = before.reverse ++ bytes.data.toList.drop place := by
  fun_induction ByteArray.toList.loop bytes place before with
  | case1 place before within inductionHypothesis =>
      have inside : place < bytes.data.toList.length := by simpa using within
      rw [inductionHypothesis, List.drop_eq_getElem_cons inside]
      simp [ByteArray.get!, within]
  | case2 place before outside =>
      have behind : bytes.data.toList.length ≤ place := by simpa using Nat.le_of_not_lt outside
      rw [List.drop_eq_nil_of_le behind, List.append_nil]

/-- Different texts have different bytes. -/
theorem ofText_injective :
    Function.Injective ofText := by
  intro first second same
  have character : Function.Injective fun byte : UInt8 => Char.ofNat byte.toNat := by
    intro byte other equal
    have numbers := congrArg Char.toNat equal
    have number (byte : UInt8) : (Char.ofNat byte.toNat).toNat = byte.toNat := by
      have small := byte.toNat_lt
      have valid : byte.toNat.isValidChar := .inl (by omega)
      rw [Char.ofNat, dif_pos valid]
      rfl
    rw [number, number] at numbers
    exact UInt8.toNat_inj.mp numbers
  have bytes := List.map_injective_iff.mpr character same
  rw [ByteArray.toList, ByteArray.toList, toList_loop_eq, toList_loop_eq] at bytes
  have arrays : first.toUTF8 = second.toUTF8 := ByteArray.ext (Array.toList_inj.mp bytes)
  exact String.toByteArray_inj.mp arrays

end Octets

namespace Machine

/-- Setting a variable anew puts its pair in the place of those that it had. -/
theorem lookup_filter_append_singleton
    (known : List (String × String))
    (pair : String × String)
    (name : String) :
    ((known.filter fun entry => entry.1 ≠ pair.1) ++ [pair]).lookup name =
      if name = pair.1 then some pair.2 else known.lookup name := by
  rw [List.lookup_append]
  by_cases same : name = pair.1
  · have gone : (known.filter fun entry => entry.1 ≠ pair.1).lookup name = none := by
      rw [List.lookup_eq_none_iff]
      intro entry kept
      have differ := (List.mem_filter.mp kept).2
      rw [same, bne_iff_ne]
      exact Ne.symm (by simpa using differ)
    rw [gone, if_pos same, List.lookup_cons, beq_iff_eq.mpr same]
    rfl
  · rw [if_neg same, lookup_filter_of_ne same, List.lookup_cons, beq_eq_false_iff_ne.mpr same]
    exact Option.or_none

/-- A process finds under a name what the pairs set it to, and otherwise what its machine has. -/
theorem lookup_environmentWith
    (machine : Machine)
    (pairs : List (String × String))
    (name : String) :
    (machine.environmentWith pairs).lookup (Octets.ofText name) =
      ((lastSet? pairs name).or (machine.environment.lookup name)).map Octets.ofText := by
  have applied :
      (pairs.foldl
          (fun known pair => (known.filter fun entry => entry.1 ≠ pair.1) ++ [pair])
          machine.environment).lookup name =
        (lastSet? pairs name).or (machine.environment.lookup name) := by
    induction pairs using List.reverseRecOn with
    | nil =>
        rfl
    | append_singleton before last inductionHypothesis =>
        rw [List.foldl_append, List.foldl_cons, List.foldl_nil, lookup_filter_append_singleton,
          lastSet?_append_singleton, inductionHypothesis]
        by_cases same : name = last.1
        · rw [if_pos same, if_pos same, Option.some_or]
        · rw [if_neg same, if_neg same]
  rw [← applied]
  exact lookup_map_of_forms_apart Octets.ofText fun _ _ same => Octets.ofText_injective same

end Machine

end BenchmarkOrchestration
