namespace BenchmarkOrchestration

/-!
# Prefixes, suffixes and parts of a text

Texts are taken apart as lists of characters.  `dropStart?` and `dropEnd?` give what is left when
a fixed text is removed from one end, and nothing when the text does not stand there.  The two
laws beside each of them say exactly that.
-/

namespace Affix

/-- What follows `start` in `text`, when `text` begins with it. -/
def dropStart? [DecidableEq α] : (start text : List α) → Option (List α)
  | [], text => some text
  | _ :: _, [] => none
  | a :: start, b :: text => if a = b then dropStart? start text else none

theorem dropStart?_eq_some_iff
    [DecidableEq α]
    {start text rest : List α} :
    dropStart? start text = some rest ↔ text = start ++ rest := by
  induction start generalizing text with
  | nil => simp [dropStart?]
  | cons a start ih =>
      cases text with
      | nil => simp [dropStart?]
      | cons b text =>
          by_cases same : a = b
          · subst same
            simp [dropStart?, ih]
          · simp [dropStart?, same, Ne.symm same]

/-- What precedes `ending` in `text`, when `text` finishes with it. -/
def dropEnd?
    [DecidableEq α]
    (ending text : List α) :
    Option (List α) :=
  (dropStart? ending.reverse text.reverse).map List.reverse

theorem dropEnd?_eq_some_iff
    [DecidableEq α]
    {ending text rest : List α} :
    dropEnd? ending text = some rest ↔ text = rest ++ ending := by
  simp only [dropEnd?, Option.map_eq_some_iff, dropStart?_eq_some_iff]
  constructor
  · rintro ⟨flipped, split, rfl⟩
    have := congrArg List.reverse split
    simpa using this
  · rintro rfl
    exact ⟨rest.reverse, by simp, by simp⟩

/-- Whether `part` occurs somewhere in `text`. -/
def occursIn
    [DecidableEq α]
    (part : List α) :
    (text : List α) → Bool
  | [] => part.isEmpty
  | c :: text => (dropStart? part (c :: text)).isSome || occursIn part text

theorem occursIn_iff
    [DecidableEq α]
    {part text : List α} :
    occursIn part text = true ↔ ∃ before after, text = before ++ part ++ after := by
  induction text with
  | nil =>
      simp [occursIn, List.isEmpty_iff]
  | cons c text ih =>
      simp only [occursIn, Bool.or_eq_true, ih, Option.isSome_iff_exists, dropStart?_eq_some_iff]
      constructor
      · rintro (⟨after, split⟩ | ⟨before, after, split⟩)
        · exact ⟨[], after, by simpa using split⟩
        · exact ⟨c :: before, after, by simp [split]⟩
      · rintro ⟨before, after, split⟩
        cases before with
        | nil => exact .inl ⟨after, by simpa using split⟩
        | cons b before =>
            simp only [List.cons_append, List.cons.injEq] at split
            exact .inr ⟨before, after, by simp [split.2]⟩

end Affix

/-- Whether `part` occurs somewhere in `text`. -/
def textContains
    (text part : String) :
    Bool :=
  Affix.occursIn part.toList text.toList

theorem textContains_iff
    {text part : String} :
    textContains text part = true ↔ ∃ before after, text = before ++ part ++ after := by
  rw [textContains, Affix.occursIn_iff]
  constructor
  · rintro ⟨before, after, split⟩
    refine ⟨String.ofList before, String.ofList after, ?_⟩
    rw [← String.toList_inj, split]
    simp
  · rintro ⟨before, after, rfl⟩
    exact ⟨before.toList, after.toList, by simp⟩

/-- The pieces of `text` between the occurrences of one character. -/
def splitAt
    (mark : Char) :
    (text : List Char) → List (List Char)
  | [] => [[]]
  | c :: text =>
      if c = mark then
        [] :: splitAt mark text
      else
        match splitAt mark text with
        | [] => [[c]]
        | piece :: pieces => (c :: piece) :: pieces

/-- The pieces of a text between the occurrences of one character. -/
def splitText
    (mark : Char)
    (text : String) :
    List String :=
  (splitAt mark text.toList).map String.ofList

end BenchmarkOrchestration
