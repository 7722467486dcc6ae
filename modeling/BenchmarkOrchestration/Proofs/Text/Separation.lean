import Mathlib.Data.List.Basic

namespace BenchmarkOrchestration

/-!
# Texts on both sides of a mark

A text that is written with a mark between two parts is taken apart in one way only, if the mark
does not occur in the part before it, or not in the part behind it.  In a number only digits occur,
and different numbers are written differently.
-/

/-- The first mark of a text separates its parts. -/
theorem append_cons_eq_iff_of_front
    {mark : α}
    {front otherFront rest otherRest : List α}
    (unmarked : mark ∉ front)
    (otherUnmarked : mark ∉ otherFront) :
    front ++ mark :: rest = otherFront ++ mark :: otherRest ↔
      front = otherFront ∧ rest = otherRest := by
  induction front generalizing otherFront with
  | nil =>
      cases otherFront with
      | nil =>
          simp
      | cons first others =>
          have apart : mark ≠ first := fun same => otherUnmarked (same ▸ List.mem_cons_self)
          simp [apart]
  | cons first front inductionHypothesis =>
      cases otherFront with
      | nil =>
          have apart : first ≠ mark := fun same => unmarked (same ▸ List.mem_cons_self)
          simp [apart]
      | cons other others =>
          rw [List.mem_cons, not_or] at unmarked otherUnmarked
          rw [List.cons_append, List.cons_append, List.cons.injEq, List.cons.injEq,
            inductionHypothesis unmarked.2 otherUnmarked.2, and_assoc]

/-- The last mark of a text separates its parts. -/
theorem append_cons_eq_iff_of_rest
    {mark : α}
    {front otherFront rest otherRest : List α}
    (unmarked : mark ∉ rest)
    (otherUnmarked : mark ∉ otherRest) :
    front ++ mark :: rest = otherFront ++ mark :: otherRest ↔
      front = otherFront ∧ rest = otherRest := by
  rw [← List.mem_reverse] at unmarked otherUnmarked
  rw [← List.reverse_inj, List.reverse_append, List.reverse_append, List.reverse_cons,
    List.reverse_cons, List.append_assoc, List.append_assoc, List.singleton_append,
    List.singleton_append, append_cons_eq_iff_of_front unmarked otherUnmarked, List.reverse_inj,
    List.reverse_inj, and_comm]

section Texts

variable
  {mark : Char}
  {sign front otherFront rest otherRest : String}

/-- The first sign of one mark separates the parts of a text. -/
theorem append_sign_eq_iff_of_front
    (isSign : sign.toList = [mark])
    (unmarked : mark ∉ front.toList)
    (otherUnmarked : mark ∉ otherFront.toList) :
    front ++ sign ++ rest = otherFront ++ sign ++ otherRest ↔
      front = otherFront ∧ rest = otherRest := by
  simp only [← String.toList_inj, String.toList_append, isSign, List.append_assoc,
    List.singleton_append, append_cons_eq_iff_of_front unmarked otherUnmarked]

/-- The last sign of one mark separates the parts of a text. -/
theorem append_sign_eq_iff_of_rest
    (isSign : sign.toList = [mark])
    (unmarked : mark ∉ rest.toList)
    (otherUnmarked : mark ∉ otherRest.toList) :
    front ++ sign ++ rest = otherFront ++ sign ++ otherRest ↔
      front = otherFront ∧ rest = otherRest := by
  simp only [← String.toList_inj, String.toList_append, isSign, List.append_assoc,
    List.singleton_append, append_cons_eq_iff_of_rest unmarked otherUnmarked]

end Texts

/-- A number is written with digits only. -/
theorem isDigit_of_mem_toString
    {number : Nat}
    {c : Char}
    (member : c ∈ (toString number).toList) :
    c.isDigit = true := by
  rw [Nat.toString_eq_repr, Nat.toList_repr] at member
  exact Nat.isDigit_of_mem_toDigits (by decide) (by decide) member

/-- Different numbers are written differently. -/
theorem toString_eq_iff
    {first second : Nat} :
    toString first = toString second ↔ first = second := by
  constructor
  · intro same
    rw [Nat.toString_eq_ofList_toDigits, Nat.toString_eq_ofList_toDigits] at same
    have sameDigits : Nat.toDigits 10 first = Nat.toDigits 10 second :=
      String.ofList_injective same
    calc
      first = Nat.ofDigitChars 10 (Nat.toDigits 10 first) 0 := Nat.ofDigitChars_ten_toDigits.symm
      _ = Nat.ofDigitChars 10 (Nat.toDigits 10 second) 0 := by
        rw [sameDigits]
      _ = second := Nat.ofDigitChars_ten_toDigits
  · exact congrArg toString

end BenchmarkOrchestration
