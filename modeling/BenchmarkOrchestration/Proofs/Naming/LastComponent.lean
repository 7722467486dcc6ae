import BenchmarkOrchestration.Naming.FunctorName
import BenchmarkOrchestration.Proofs.Text.Pieces

namespace BenchmarkOrchestration

/-!
# The last component of a key

The key of an item is a path.  The benchmark that it names is the one component that has no slash
and that nothing but a slash separates from the rest of the key.
-/

/-- A name is the last component of a key: it has no slash, and behind a slash the key ends so. -/
def IsLastComponent
    (key name : String) :
    Prop :=
  '/' ∉ name.toList ∧ (key = name ∨ ∃ front, key = front ++ "/" ++ name)

/-- Every key has a last component. -/
theorem exists_isLastComponent
    (key : String) :
    ∃ name, IsLastComponent key name := by
  by_cases marked : '/' ∈ key.toList
  · obtain ⟨back, front, split, unmarked⟩ :=
      List.eq_append_cons_of_mem (List.mem_reverse.mpr marked)
    refine ⟨String.ofList back.reverse, ?_, .inr ⟨String.ofList front.reverse, ?_⟩⟩
    · rwa [String.toList_ofList, List.mem_reverse]
    · have whole := congrArg List.reverse split
      rw [List.reverse_reverse, List.reverse_append, List.reverse_cons] at whole
      rw [← String.toList_inj, String.toList_append, String.toList_append, String.toList_ofList,
        String.toList_ofList, String.toList_ofList, whole]
  · exact ⟨key, marked, .inl rfl⟩

/-- The benchmark of a key is its last component. -/
theorem benchmarkOfKey_of_isLastComponent
    {key name : String}
    (last : IsLastComponent key name) :
    benchmarkOfKey key = name := by
  obtain ⟨unmarked, rfl | ⟨front, rfl⟩⟩ := last
  · rw [benchmarkOfKey, splitText_of_notMem unmarked]
    rfl
  · have slash : "/".toList = ['/'] := by decide
    rw [benchmarkOfKey, splitText_append_sign slash, splitText_of_notMem unmarked,
      List.getLastD_concat]

/-- Nothing but the last component of a key is its benchmark. -/
theorem benchmarkOfKey_eq_iff
    {key name : String} :
    benchmarkOfKey key = name ↔ IsLastComponent key name := by
  constructor
  · rintro rfl
    obtain ⟨name, last⟩ := exists_isLastComponent key
    rwa [benchmarkOfKey_of_isLastComponent last]
  · exact benchmarkOfKey_of_isLastComponent

/-- The last components of two keys are the same exactly if the keys have one in common. -/
theorem eq_iff_exists_isLastComponent
    {firstName secondName first second : String}
    (ofFirst : IsLastComponent firstName first)
    (ofSecond : IsLastComponent secondName second) :
    first = second ↔
      ∃ component, IsLastComponent firstName component ∧ IsLastComponent secondName component := by
  constructor
  · rintro rfl
    exact ⟨first, ofFirst, ofSecond⟩
  · rintro ⟨component, firstEnds, secondEnds⟩
    rw [← benchmarkOfKey_eq_iff] at ofFirst ofSecond firstEnds secondEnds
    rw [← ofFirst, ← ofSecond, firstEnds, secondEnds]

end BenchmarkOrchestration
