import BenchmarkOrchestration.Model.Configuration
import Mathlib.Data.List.Induction
import Mathlib.Data.List.Nodup

namespace BenchmarkOrchestration

/-!
# First occurrences

Leaving out repetitions keeps every text once, at the place where it is seen first.
-/

/-- A text behind others is kept exactly if it was not seen before. -/
theorem firstSeen_append_singleton
    (texts : List String)
    (text : String) :
    firstSeen (texts ++ [text]) =
      if text ∈ firstSeen texts then firstSeen texts else firstSeen texts ++ [text] := by
  simp [firstSeen]

/-- Leaving out repetitions loses no text and adds none. -/
@[simp] theorem mem_firstSeen
    {text : String}
    {texts : List String} :
    text ∈ firstSeen texts ↔ text ∈ texts := by
  induction texts using List.reverseRecOn with
  | nil =>
      simp [firstSeen]
  | append_singleton texts last inductionHypothesis =>
      rw [firstSeen_append_singleton]
      split
      · rename_i seen
        rw [inductionHypothesis, List.mem_append, List.mem_singleton]
        constructor
        · exact .inl
        · rintro (earlier | rfl)
          · exact earlier
          · exact inductionHypothesis.mp seen
      · simp [inductionHypothesis]

/-- No text is kept twice. -/
theorem nodup_firstSeen
    (texts : List String) :
    (firstSeen texts).Nodup := by
  induction texts using List.reverseRecOn with
  | nil =>
      simp [firstSeen]
  | append_singleton texts last inductionHypothesis =>
      rw [firstSeen_append_singleton]
      split
      · exact inductionHypothesis
      · rename_i unseen
        exact List.nodup_append.mpr
          ⟨inductionHypothesis, List.nodup_singleton last, by
            intro text member other isLast same
            rw [List.mem_singleton] at isLast
            exact unseen (isLast ▸ same ▸ member)⟩

/-- A text counts once, however often it is repeated right away. -/
theorem firstSeen_append_replicate_succ
    (texts : List String)
    (text : String)
    (repetitions : Nat) :
    firstSeen (texts ++ List.replicate (repetitions + 1) text) = firstSeen (texts ++ [text]) := by
  induction repetitions with
  | zero =>
      rfl
  | succ repetitions inductionHypothesis =>
      rw [List.replicate_succ', ← List.append_assoc, firstSeen_append_singleton,
        if_pos (by simp), inductionHypothesis]

/-- Runs of one text count once each, and empty runs not at all. -/
theorem firstSeen_flatMap_replicate
    (count : α → Nat)
    (text : α → String)
    (runs : List α) :
    firstSeen (runs.flatMap fun run => List.replicate (count run) (text run)) =
      firstSeen ((runs.filter fun run => 0 < count run).map text) := by
  induction runs using List.reverseRecOn with
  | nil =>
      rfl
  | append_singleton runs last inductionHypothesis =>
      rw [List.flatMap_append, List.flatMap_singleton, List.filter_append, List.map_append]
      cases shape : count last with
      | zero =>
          simp [shape, inductionHypothesis]
      | succ repetitions =>
          have single : [last].filter (fun run => 0 < count run) = [last] := by simp [shape]
          rw [firstSeen_append_replicate_succ, single, List.map_singleton,
            firstSeen_append_singleton, firstSeen_append_singleton, inductionHypothesis]

/-- What is kept is what the removal of all later duplicates keeps. -/
theorem firstSeen_eq_eraseDups
    (texts : List String) :
    firstSeen texts = texts.eraseDups := by
  induction texts using List.reverseRecOn with
  | nil =>
      rfl
  | append_singleton texts last inductionHypothesis =>
      rw [firstSeen_append_singleton, inductionHypothesis, List.eraseDups_append]
      simp only [List.mem_eraseDups]
      split
      · rename_i seen
        simp [List.removeAll, seen]
      · rename_i unseen
        simp [List.removeAll, unseen, List.eraseDups_cons]

/-- Repetitions in the texts behind others may be left out beforehand. -/
theorem firstSeen_append_firstSeen
    (before texts : List String) :
    firstSeen (before ++ firstSeen texts) = firstSeen (before ++ texts) := by
  induction texts using List.reverseRecOn with
  | nil =>
      rfl
  | append_singleton texts last inductionHypothesis =>
      rw [firstSeen_append_singleton, ← List.append_assoc,
        firstSeen_append_singleton (before ++ texts)]
      split
      · rename_i seen
        have seenBefore : last ∈ firstSeen (before ++ texts) := by
          rw [mem_firstSeen] at seen ⊢
          exact List.mem_append_right before seen
        rw [if_pos seenBefore, inductionHypothesis]
      · rw [← List.append_assoc, firstSeen_append_singleton, inductionHypothesis]

/-- Repetitions in the texts before others may be left out beforehand. -/
theorem firstSeen_firstSeen_append
    (texts after : List String) :
    firstSeen (firstSeen texts ++ after) = firstSeen (texts ++ after) := by
  have again : firstSeen (firstSeen texts) = firstSeen texts := by
    simpa using firstSeen_append_firstSeen [] texts
  unfold firstSeen at again ⊢
  rw [List.foldl_append, List.foldl_append, again]

/-- Leaving out repetitions part by part, and then once more, is leaving them out once. -/
theorem firstSeen_append_flatMap_firstSeen
    (part : α → List String)
    (values : List α)
    (before : List String) :
    firstSeen (before ++ values.flatMap fun value => firstSeen (part value)) =
      firstSeen (before ++ values.flatMap part) := by
  -- The texts before the parts stand for all that was seen when a part is reached.
  induction values generalizing before with
  | nil =>
      rfl
  | cons value rest inductionHypothesis =>
      calc
        firstSeen
            (before ++ (value :: rest).flatMap fun value => firstSeen (part value)) =
            firstSeen (before ++ firstSeen (part value) ++ rest.flatMap part) := by
          rw [List.flatMap_cons, ← List.append_assoc, inductionHypothesis]
        _ = firstSeen (before ++ part value ++ rest.flatMap part) := by
          rw [← firstSeen_firstSeen_append, firstSeen_append_firstSeen,
            firstSeen_firstSeen_append]
        _ = firstSeen (before ++ (value :: rest).flatMap part) := by
          rw [List.flatMap_cons, List.append_assoc]

end BenchmarkOrchestration
