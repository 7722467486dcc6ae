import BenchmarkOrchestration.Arguments.Sequence
import BenchmarkOrchestration.Proofs.Document.Results
import Mathlib.Data.List.Sort

namespace BenchmarkOrchestration.ArgumentValue

/-!
# Leaves of nested arrays

A node of nested arrays has an address: its position in the outermost array, its position in the
array that stands there, and so on.  A leaf is a node that is no array.  Leaves stand from left to
right in the lexicographic order of their addresses, so a list of leaves in order tells nothing
about the brackets around them, and the sequence of a value is this list.
-/

/-- Whether a value is an array. -/
def isArray : Json.Value → Bool
  | .array _ => true
  | _ => false

/-- The node of nested arrays at an address; other values than arrays have no nodes inside. -/
def nodeAt? : Json.Value → (address : List Nat) → Option Json.Value
  | value, [] => some value
  | .array elements, position :: address =>
      elements[position]?.bind fun inner => nodeAt? inner address
  | _, _ :: _ => none

/-- At an address stands a leaf. -/
structure LeafAt
    (value : Json.Value)
    (address : List Nat)
    (leaf : Json.Value) :
    Prop where
  found : nodeAt? value address = some leaf
  single : isArray leaf = false

/-- A list holds every leaf of a value once, in the order of the addresses. -/
structure LeavesFrom
    (value : Json.Value)
    (addresses : List (List Nat))
    (leaves : List Json.Value) :
    Prop where
  increasing : addresses.Pairwise (· < ·)
  standing : List.Forall₂ (LeafAt value) addresses leaves
  complete : ∀ address leaf, LeafAt value address leaf → address ∈ addresses

/-- The leaves of a value from left to right. -/
def LeavesInOrder
    (value : Json.Value)
    (leaves : List Json.Value) :
    Prop :=
  ∃ addresses, LeavesFrom value addresses leaves

/-- Two values have the same leaves in the same order, whatever the brackets are. -/
def SameLeaves
    (value other : Json.Value) :
    Prop :=
  ∃ leaves, LeavesInOrder value leaves ∧ LeavesInOrder other leaves

/-- The addresses are those at which leaves stand. -/
theorem LeavesFrom.mem_iff
    {value : Json.Value}
    {addresses : List (List Nat)}
    {leaves : List Json.Value}
    (listed : LeavesFrom value addresses leaves)
    {address : List Nat} :
    address ∈ addresses ↔ ∃ leaf, LeafAt value address leaf := by
  constructor
  · intro member
    obtain ⟨leaf, -, stands⟩ := Document.exists_of_mem_read listed.standing.flip member
    exact ⟨leaf, stands⟩
  · rintro ⟨leaf, stands⟩
    exact listed.complete address leaf stands

/-- A sequence holds the leaves of a value from left to right and forgets everything else. -/
structure FlattensToLeaves
    (value : Json.Value) :
    Prop where
  leaves : ∀ leaves, LeavesInOrder value leaves ↔ leaves = sequence value
  flat : ∀ leaf ∈ sequence value, isArray leaf = false
  kept : isArray value = false → sequence value = [value]
  alike : ∀ other, SameLeaves value other ↔ sequence value = sequence other
  again : sequence (.array (sequence value)) = sequence value

section Single

variable
  {value leaf : Json.Value}
  {address : List Nat}

/-- A value that is no array is a sequence of itself. -/
theorem sequence_of_single
    (single : isArray value = false) :
    sequence value = [value] := by
  cases value with
  | array elements =>
      cases single
  | _ =>
      rfl

/-- The only node of a value that is no array is the value. -/
theorem leafAt_iff_of_single
    (single : isArray value = false) :
    LeafAt value address leaf ↔ address = [] ∧ leaf = value := by
  constructor
  · rintro ⟨found, _⟩
    cases address with
    | nil =>
        exact ⟨rfl, (Option.some.inj found).symm⟩
    | cons position address =>
        cases value with
        | array elements =>
            cases single
        | _ =>
            cases found
  · rintro ⟨rfl, rfl⟩
    exact ⟨rfl, single⟩

/-- A value that is no array has itself as its only leaf. -/
theorem leavesInOrder_of_single
    (single : isArray value = false) :
    LeavesInOrder value [value] := by
  refine ⟨[[]], List.pairwise_singleton _ _, ?_, ?_⟩
  · exact .cons ((leafAt_iff_of_single single).mpr ⟨rfl, rfl⟩) .nil
  · intro address leaf stands
    rw [((leafAt_iff_of_single single).mp stands).1]
    exact List.mem_singleton_self _

end Single

section Elements

variable
  {elements first others : List Json.Value}
  {value leaf : Json.Value}
  {address : List Nat}

/-- A leaf of an array is a leaf of one of its elements. -/
theorem leafAt_array_iff :
    LeafAt (.array elements) address leaf ↔
      ∃ position inner rest,
        address = position :: rest ∧ elements[position]? = some inner ∧ LeafAt inner rest leaf := by
  constructor
  · rintro ⟨found, single⟩
    cases address with
    | nil =>
        cases found
        cases single
    | cons position rest =>
        obtain ⟨inner, element, found⟩ := Option.bind_eq_some_iff.mp found
        exact ⟨position, inner, rest, rfl, element, found, single⟩
  · rintro ⟨position, inner, rest, rfl, element, found, single⟩
    exact ⟨Option.bind_eq_some_iff.mpr ⟨inner, element, found⟩, single⟩

/-- The address of a leaf of an array in a longer array that has one more element in front. -/
def shifted : (address : List Nat) → List Nat
  | [] => []
  | position :: rest => (position + 1) :: rest

/-- Shifting keeps the order. -/
theorem shifted_lt_shifted
    {address other : List Nat}
    (earlier : address < other) :
    shifted address < shifted other := by
  cases earlier with
  | nil =>
      exact .nil
  | rel before =>
      exact .rel (Nat.succ_lt_succ before)
  | cons later =>
      exact .cons later

/-- The leaves of a longer array are those of its first element and those of the other ones. -/
theorem leafAt_array_cons_iff :
    LeafAt (.array (value :: elements)) address leaf ↔
      (∃ rest, address = 0 :: rest ∧ LeafAt value rest leaf) ∨
        ∃ rest, address = shifted rest ∧ LeafAt (.array elements) rest leaf := by
  rw [leafAt_array_iff]
  constructor
  · rintro ⟨position, inner, rest, rfl, element, stands⟩
    cases position with
    | zero =>
        obtain rfl := Option.some.inj element
        exact .inl ⟨rest, rfl, stands⟩
    | succ position =>
        have later : LeafAt (.array elements) (position :: rest) leaf :=
          leafAt_array_iff.mpr ⟨position, inner, rest, rfl, element, stands⟩
        exact .inr ⟨position :: rest, rfl, later⟩
  · rintro (⟨rest, rfl, stands⟩ | ⟨rest, rfl, later⟩)
    · exact ⟨0, value, rest, rfl, rfl, stands⟩
    · obtain ⟨position, inner, rest, rfl, element, stands⟩ := leafAt_array_iff.mp later
      exact ⟨position + 1, inner, rest, rfl, element, stands⟩

/-- An array without elements has no leaves. -/
theorem leavesInOrder_array_nil :
    LeavesInOrder (.array []) [] := by
  refine ⟨[], .nil, .nil, ?_⟩
  intro address leaf stands
  obtain ⟨position, inner, rest, -, element, -⟩ := leafAt_array_iff.mp stands
  cases element

/-- The leaves of an array are the leaves of its first element, followed by those of the others. -/
theorem leavesInOrder_array_cons
    (ofFirst : LeavesInOrder value first)
    (ofOthers : LeavesInOrder (.array elements) others) :
    LeavesInOrder (.array (value :: elements)) (first ++ others) := by
  obtain ⟨addresses, ofFirst⟩ := ofFirst
  obtain ⟨otherAddresses, ofOthers⟩ := ofOthers
  refine ⟨addresses.map (0 :: ·) ++ otherAddresses.map shifted, ?_, ?_, ?_⟩
  · have inFirst : (addresses.map (0 :: ·)).Pairwise (· < ·) :=
      ofFirst.increasing.map _ fun _ _ earlier => .cons earlier
    have inOthers : (otherAddresses.map shifted).Pairwise (· < ·) :=
      ofOthers.increasing.map _ fun _ _ earlier => shifted_lt_shifted earlier
    refine List.pairwise_append.mpr ⟨inFirst, inOthers, ?_⟩
    intro address inFirst other inOthers
    obtain ⟨rest, -, rfl⟩ := List.mem_map.mp inFirst
    obtain ⟨otherRest, member, rfl⟩ := List.mem_map.mp inOthers
    -- No leaf of an array has the empty address, so shifting makes its first position positive.
    obtain ⟨leaf, stands⟩ := ofOthers.mem_iff.mp member
    obtain ⟨position, inner, after, rfl, -, -⟩ := leafAt_array_iff.mp stands
    exact .rel (Nat.succ_pos position)
  · refine List.rel_append ?_ ?_
    · refine List.forall₂_map_left_iff.mpr (ofFirst.standing.imp fun rest leaf stands => ?_)
      exact leafAt_array_cons_iff.mpr (.inl ⟨rest, rfl, stands⟩)
    · refine List.forall₂_map_left_iff.mpr (ofOthers.standing.imp fun rest leaf stands => ?_)
      exact leafAt_array_cons_iff.mpr (.inr ⟨rest, rfl, stands⟩)
  · intro address leaf stands
    rcases leafAt_array_cons_iff.mp stands with ⟨rest, rfl, here⟩ | ⟨rest, rfl, later⟩
    · exact List.mem_append_left _ (List.mem_map_of_mem (ofFirst.complete rest leaf here))
    · exact List.mem_append_right _ (List.mem_map_of_mem (ofOthers.complete rest leaf later))

end Elements

mutual

/-- The sequence of a value is the list of its leaves from left to right. -/
theorem leavesInOrder_sequence :
    (value : Json.Value) → LeavesInOrder value (sequence value)
  | .array elements => leavesInOrder_sequences elements
  | .null | .boolean _ | .number _ | .text _ | .object _ => leavesInOrder_of_single rfl

/-- The sequences of several values are the leaves of the array of these values. -/
theorem leavesInOrder_sequences :
    (elements : List Json.Value) → LeavesInOrder (.array elements) (sequences elements)
  | [] => leavesInOrder_array_nil
  | value :: rest =>
      leavesInOrder_array_cons (leavesInOrder_sequence value) (leavesInOrder_sequences rest)

end

/-- At one address stands one leaf. -/
theorem leafAt_rightUnique
    (value : Json.Value) :
    Relator.RightUnique (LeafAt value) := by
  intro address leaf other stands otherStands
  have same : some leaf = some other := stands.found.symm.trans otherStands.found
  exact Option.some.inj same

/-- A value has one list of leaves in order. -/
theorem leavesInOrder_unique
    {value : Json.Value}
    {leaves others : List Json.Value}
    (listed : LeavesInOrder value leaves)
    (otherListed : LeavesInOrder value others) :
    leaves = others := by
  obtain ⟨addresses, listed⟩ := listed
  obtain ⟨otherAddresses, otherListed⟩ := otherListed
  -- Two increasing lists of the same addresses are one list.
  have sameAddresses : addresses = otherAddresses := by
    refine listed.increasing.eq_of_mem_iff otherListed.increasing fun address => ?_
    rw [listed.mem_iff, otherListed.mem_iff]
  subst sameAddresses
  exact List.right_unique_forall₂' (leafAt_rightUnique value) listed.standing otherListed.standing

/-- The sequence of a value is its only list of leaves in order. -/
theorem leavesInOrder_iff
    {value : Json.Value}
    {leaves : List Json.Value} :
    LeavesInOrder value leaves ↔ leaves = sequence value := by
  constructor
  · intro listed
    exact leavesInOrder_unique listed (leavesInOrder_sequence value)
  · rintro rfl
    exact leavesInOrder_sequence value

/-- Values have the same leaves in the same order exactly if their sequences are equal. -/
theorem sameLeaves_iff
    {value other : Json.Value} :
    SameLeaves value other ↔ sequence value = sequence other := by
  constructor
  · rintro ⟨leaves, listed, otherListed⟩
    exact (leavesInOrder_iff.mp listed).symm.trans (leavesInOrder_iff.mp otherListed)
  · intro same
    exact ⟨sequence value, leavesInOrder_sequence value, leavesInOrder_iff.mpr same⟩

/-- A value has the same leaves as itself. -/
theorem sameLeaves_refl
    (value : Json.Value) :
    SameLeaves value value :=
  sameLeaves_iff.mpr rfl

/-- No element of a sequence is an array. -/
theorem single_of_mem_sequence
    {value leaf : Json.Value}
    (member : leaf ∈ sequence value) :
    isArray leaf = false := by
  obtain ⟨addresses, listed⟩ := leavesInOrder_sequence value
  obtain ⟨address, -, stands⟩ := Document.exists_of_mem_read listed.standing member
  exact stands.single

/-- Values that are no arrays are, one after the other, the sequence of their array. -/
theorem sequence_array_of_single
    {values : List Json.Value}
    (single : ∀ value ∈ values, isArray value = false) :
    sequence (.array values) = values := by
  rw [sequence]
  induction values with
  | nil =>
      rfl
  | cons value rest inductionHypothesis =>
      rw [List.forall_mem_cons] at single
      rw [sequences, sequence_of_single single.1, inductionHypothesis single.2]
      rfl

/-- The sequence of the array of a sequence is the sequence. -/
theorem sequence_array_sequence
    (value : Json.Value) :
    sequence (.array (sequence value)) = sequence value :=
  sequence_array_of_single fun _ member => single_of_mem_sequence member

/-- Every value is flattened to its leaves. -/
theorem flattensToLeaves
    (value : Json.Value) :
    FlattensToLeaves value where
  leaves _ := leavesInOrder_iff
  flat _ := single_of_mem_sequence
  kept := sequence_of_single
  alike _ := sameLeaves_iff
  again := sequence_array_sequence value

end BenchmarkOrchestration.ArgumentValue
