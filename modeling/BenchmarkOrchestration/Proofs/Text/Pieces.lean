import BenchmarkOrchestration.Text.Affix
import Mathlib.Data.List.Basic

namespace BenchmarkOrchestration

/-!
# Pieces between marks

No piece of a text has the mark in it.  The pieces of two texts behind each other are those of the
first and those of the second, except that the last of the one and the first of the other are one
piece.
-/

/-- There is at least one piece. -/
theorem splitAt_ne_nil
    (mark : Char)
    (text : List Char) :
    splitAt mark text ≠ [] := by
  cases text with
  | nil =>
      exact List.cons_ne_nil _ _
  | cons first rest =>
      rw [splitAt]
      split
      · exact List.cons_ne_nil _ _
      · split <;> exact List.cons_ne_nil _ _

/-- A text without the mark is one piece. -/
theorem splitAt_of_not_mem
    {mark : Char}
    {text : List Char}
    (unmarked : mark ∉ text) :
    splitAt mark text = [text] := by
  induction text with
  | nil =>
      rfl
  | cons first rest inductionHypothesis =>
      rw [List.mem_cons, not_or] at unmarked
      rw [splitAt, if_neg (Ne.symm unmarked.1), inductionHypothesis unmarked.2]

/-- A mark separates the pieces before it from those behind it. -/
theorem splitAt_append_cons
    (mark : Char)
    (front rest : List Char) :
    splitAt mark (front ++ mark :: rest) = splitAt mark front ++ splitAt mark rest := by
  induction front with
  | nil =>
      rw [List.nil_append, splitAt, splitAt, if_pos rfl]
      rfl
  | cons first front inductionHypothesis =>
      rw [List.cons_append, splitAt, splitAt, inductionHypothesis]
      by_cases marked : first = mark
      · rw [if_pos marked, if_pos marked, List.cons_append]
      · rw [if_neg marked, if_neg marked]
        cases pieces : splitAt mark front with
        | nil =>
            exact absurd pieces (splitAt_ne_nil mark front)
        | cons piece others =>
            rfl

/-- No piece has the mark in it. -/
theorem notMem_of_mem_splitAt
    {mark : Char}
    {text piece : List Char}
    (member : piece ∈ splitAt mark text) :
    mark ∉ piece := by
  induction text generalizing piece with
  | nil =>
      obtain rfl := List.mem_singleton.mp member
      exact List.not_mem_nil
  | cons first text inductionHypothesis =>
      rw [splitAt] at member
      split at member
      · rcases List.mem_cons.mp member with rfl | later
        · exact List.not_mem_nil
        · exact inductionHypothesis later
      · rename_i unmarked
        cases pieces : splitAt mark text with
        | nil =>
            exact absurd pieces (splitAt_ne_nil mark text)
        | cons next others =>
            rw [pieces] at member inductionHypothesis
            rcases List.mem_cons.mp member with rfl | later
            · rw [List.mem_cons, not_or]
              exact ⟨Ne.symm unmarked, inductionHypothesis List.mem_cons_self⟩
            · exact inductionHypothesis (List.mem_cons_of_mem _ later)

/-- Where two texts meet, the last piece of the one and the first of the other are one piece. -/
theorem exists_splitAt_append
    (mark : Char)
    (front rest : List Char) :
    ∃ before last first after,
      splitAt mark front = before ++ [last] ∧
        splitAt mark rest = first :: after ∧
          splitAt mark (front ++ rest) = before ++ (last ++ first) :: after := by
  obtain ⟨first, after, ofRest⟩ := List.exists_cons_of_ne_nil (splitAt_ne_nil mark rest)
  induction front with
  | nil =>
      exact ⟨[], [], first, after, rfl, ofRest, ofRest⟩
  | cons next front inductionHypothesis =>
      obtain ⟨before, last, first, after, ofFront, ofRest, together⟩ := inductionHypothesis
      by_cases marked : next = mark
      · refine ⟨[] :: before, last, first, after, ?_, ofRest, ?_⟩
        · rw [splitAt, if_pos marked, ofFront, List.cons_append]
        · rw [List.cons_append, splitAt, if_pos marked, together, List.cons_append]
      · rw [List.cons_append, splitAt, splitAt, if_neg marked, if_neg marked, ofFront, together]
        cases before with
        | nil =>
            exact ⟨[], next :: last, first, after, rfl, ofRest, rfl⟩
        | cons piece before =>
            exact ⟨(next :: piece) :: before, last, first, after, rfl, ofRest, rfl⟩

/-- A text without the mark only lengthens the last piece of the text before it. -/
theorem mem_splitAt_append_of_notMem
    {mark : Char}
    {front rest piece : List Char}
    (unmarked : mark ∉ rest)
    (member : piece ∈ splitAt mark (front ++ rest)) :
    piece ∈ splitAt mark front ∨ rest <:+ piece := by
  obtain ⟨before, last, first, after, ofFront, ofRest, together⟩ :=
    exists_splitAt_append mark front rest
  rw [splitAt_of_not_mem unmarked, List.cons.injEq] at ofRest
  obtain ⟨rfl, rfl⟩ := ofRest
  rw [together, List.mem_append, List.mem_singleton] at member
  rcases member with early | rfl
  · exact .inl (ofFront ▸ List.mem_append_left _ early)
  · exact .inr (List.suffix_append _ _)

/-- A text without the mark only lengthens the first piece of the text behind it. -/
theorem mem_splitAt_append_of_front_notMem
    {mark : Char}
    {front rest piece : List Char}
    (unmarked : mark ∉ front)
    (member : piece ∈ splitAt mark (front ++ rest)) :
    piece ∈ splitAt mark rest ∨ front <+: piece := by
  obtain ⟨before, last, first, after, ofFront, ofRest, together⟩ :=
    exists_splitAt_append mark front rest
  rw [splitAt_of_not_mem unmarked, eq_comm, List.append_eq_singleton_iff] at ofFront
  obtain ⟨rfl, shape⟩ | ⟨_, none⟩ := ofFront
  · obtain rfl : last = front := by simpa using shape
    rw [together, List.nil_append, List.mem_cons] at member
    rcases member with rfl | late
    · exact .inr (List.prefix_append _ _)
    · exact .inl (ofRest ▸ List.mem_cons_of_mem _ late)
  · cases none

/-- Behind another character, a text adds its own pieces and one piece with the character. -/
theorem mem_splitAt_append_cons_of_ne
    {mark c : Char}
    {front rest piece : List Char}
    (unmarked : c ≠ mark)
    (member : piece ∈ splitAt mark (front ++ c :: rest)) :
    piece ∈ splitAt mark front ∨ c ∈ piece ∨ piece ∈ splitAt mark rest := by
  obtain ⟨before, last, first, after, ofFront, ofRest, together⟩ :=
    exists_splitAt_append mark front (c :: rest)
  rw [together, List.mem_append, List.mem_cons] at member
  rw [splitAt, if_neg unmarked] at ofRest
  obtain ⟨next, others, pieces⟩ := List.exists_cons_of_ne_nil (splitAt_ne_nil mark rest)
  rw [pieces, List.cons.injEq] at ofRest
  obtain ⟨rfl, rfl⟩ := ofRest
  rcases member with early | rfl | late
  · exact .inl (ofFront ▸ List.mem_append_left _ early)
  · exact .inr (.inl (List.mem_append_right _ List.mem_cons_self))
  · exact .inr (.inr (pieces ▸ List.mem_cons_of_mem _ late))

/-- Without the marks at its start, a text has no new piece. -/
theorem mem_splitAt_of_mem_dropWhile
    {mark : Char}
    {text piece : List Char}
    (member : piece ∈ splitAt mark (text.dropWhile (· = mark))) :
    piece ∈ splitAt mark text := by
  induction text with
  | nil =>
      exact member
  | cons first text inductionHypothesis =>
      by_cases marked : first = mark
      · rw [List.dropWhile_cons, if_pos (decide_eq_true marked)] at member
        rw [splitAt, if_pos marked]
        exact List.mem_cons_of_mem _ (inductionHypothesis member)
      · rwa [List.dropWhile_cons, if_neg (by simpa using marked)] at member

/-- A text without the mark is its only piece. -/
theorem splitText_of_notMem
    {mark : Char}
    {text : String}
    (unmarked : mark ∉ text.toList) :
    splitText mark text = [text] := by
  rw [splitText, splitAt_of_not_mem unmarked, List.map_singleton, String.ofList_toList]

/-- A sign of the mark separates the pieces before it from those behind it. -/
theorem splitText_append_sign
    {mark : Char}
    {sign : String}
    (isSign : sign.toList = [mark])
    (front rest : String) :
    splitText mark (front ++ sign ++ rest) = splitText mark front ++ splitText mark rest := by
  rw [splitText, String.toList_append, String.toList_append, isSign, List.append_assoc,
    List.singleton_append, splitAt_append_cons, List.map_append]
  rfl

/-- The pieces of a text are the texts of its pieces. -/
theorem mem_splitText
    {mark : Char}
    {text piece : String} :
    piece ∈ splitText mark text ↔ piece.toList ∈ splitAt mark text.toList := by
  rw [splitText, List.mem_map]
  constructor
  · rintro ⟨characters, member, rfl⟩
    rwa [String.toList_ofList]
  · intro member
    exact ⟨piece.toList, member, String.ofList_toList⟩

/-- Texts without the mark are the pieces of the text that joins them by the sign of the mark. -/
theorem splitText_intercalate
    {mark : Char}
    {sign first : String}
    {others : List String}
    (isSign : sign.toList = [mark])
    (unmarked : ∀ piece ∈ first :: others, mark ∉ piece.toList) :
    splitText mark (sign.intercalate (first :: others)) = first :: others := by
  induction others generalizing first with
  | nil =>
      rw [String.intercalate_singleton, splitText_of_notMem (unmarked first List.mem_cons_self)]
  | cons second others inductionHypothesis =>
      have later : ∀ piece ∈ second :: others, mark ∉ piece.toList := fun piece member =>
        unmarked piece (List.mem_cons_of_mem _ member)
      rw [String.intercalate_cons_cons, splitText_append_sign isSign,
        splitText_of_notMem (unmarked first List.mem_cons_self), inductionHypothesis later,
        List.singleton_append]

end BenchmarkOrchestration
