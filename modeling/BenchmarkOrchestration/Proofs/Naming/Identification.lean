import BenchmarkOrchestration.Naming.FunctorName
import BenchmarkOrchestration.Proofs.Text.Separation

namespace BenchmarkOrchestration

/-!
# What a file name says about its functor

Outside a database the flavor stands behind the last underscore, and an opening word tells the step.
The file name then identifies the functor, if no flavor has an underscore and no benchmark begins
with an opening word.  In a database benchmark and flavor are joined without a sign, so that the
file name tells no more than the two together.
-/

namespace FunctorName

/-- The words with which file names begin, except those of plain builds. -/
def openings : List String :=
  ["clean_", "runner_", "analyse_", "no_instr_"]

/-- A name outside a database whose parts are not mistaken for each other. -/
structure IsTelling
    (name : FunctorName) :
    Prop where
  outside : name.forDatabase = false
  flavor : '_' ∉ name.flavor.toList
  benchmark : ∀ opening ∈ openings, ¬ opening.toList <+: name.benchmark.toList

/-- Two names of one functor; only builds have variants. -/
structure SameFunctor
    (first second : FunctorName) :
    Prop where
  role : first.role = second.role
  benchmark : first.benchmark = second.benchmark
  flavor : first.flavor = second.flavor
  variant : first.role = .build → first.uninstrumented = second.uninstrumented

/-- What equal file names say about two functors. -/
structure IdentifiedByFile
    (first second : FunctorName) :
    Prop where
  outside :
    first.IsTelling →
      second.IsTelling → (first.fileName = second.fileName ↔ SameFunctor first second)
  database :
    first.forDatabase = true →
      second.forDatabase = true →
        first.role = second.role →
          first.role ≠ .clean →
            (first.fileName = second.fileName ↔
              first.benchmark ++ first.flavor = second.benchmark ++ second.flavor)

/-- The word with which the file name begins outside a database, if there is one. -/
def opening
    (name : FunctorName) :
    String :=
  match name.role with
  | .build => if name.uninstrumented then "no_instr_" else ""
  | .clean => "clean_"
  | .analyze => "analyse_"
  | .run => "runner_"

/-- Outside a database the opening word comes before the benchmark and the flavor. -/
theorem fileName_of_outside
    {name : FunctorName}
    (outside : name.forDatabase = false) :
    name.fileName = name.opening ++ name.benchmark ++ "_" ++ name.flavor := by
  rw [fileName, opening, outside]
  cases name.role with
  | build =>
      cases name.uninstrumented <;> simp [spaced, String.append_assoc]
  | clean | analyze | run =>
      simp [spaced, String.append_assoc]

/-- A name has no opening word, or one of the list. -/
theorem opening_eq_empty_or_mem
    (name : FunctorName) :
    name.opening = "" ∨ name.opening ∈ openings := by
  rw [opening]
  cases name.role with
  | build =>
      cases name.uninstrumented <;> simp [openings]
  | clean | analyze | run =>
      simp [openings]

/-- The opening word tells the step, and the variant of a build. -/
theorem opening_eq_iff
    {first second : FunctorName} :
    first.opening = second.opening ↔
      first.role = second.role ∧
        (first.role = .build → first.uninstrumented = second.uninstrumented) := by
  obtain ⟨firstRole, _, firstVariant, _, _⟩ := first
  obtain ⟨secondRole, _, secondVariant, _, _⟩ := second
  cases firstRole <;> cases secondRole <;> cases firstVariant <;> cases secondVariant <;>
    simp [opening]

/-- No opening word is the beginning of another one. -/
theorem eq_of_opening_isPrefix :
    ∀ first ∈ openings, ∀ second ∈ openings, first.toList <+: second.toList → first = second := by
  decide

/-- Before a benchmark that begins with no opening word, there is one opening word at most. -/
theorem opening_eq_of_isPrefix
    {first second : FunctorName}
    (telling : first.IsTelling)
    (begins : first.opening.toList <+: second.opening.toList)
    (same :
      first.opening.toList ++ first.benchmark.toList =
        second.opening.toList ++ second.benchmark.toList) :
    first.opening = second.opening := by
  rcases first.opening_eq_empty_or_mem with firstNone | firstOpens
  · rcases second.opening_eq_empty_or_mem with secondNone | secondOpens
    · rw [firstNone, secondNone]
    · -- Without a word of its own, the first benchmark would begin with the second word.
      rw [firstNone, String.toList_empty, List.nil_append] at same
      exact absurd ⟨_, same.symm⟩ (telling.benchmark _ secondOpens)
  · rcases second.opening_eq_empty_or_mem with secondNone | secondOpens
    · rw [secondNone, String.toList_empty, List.prefix_nil] at begins
      rw [secondNone, ← String.toList_inj, begins, String.toList_empty]
    · exact eq_of_opening_isPrefix _ firstOpens _ secondOpens begins

/-- Opening words are told apart from the benchmarks behind them. -/
theorem opening_append_eq_iff
    {first second : FunctorName}
    (firstTelling : first.IsTelling)
    (secondTelling : second.IsTelling) :
    first.opening ++ first.benchmark = second.opening ++ second.benchmark ↔
      first.opening = second.opening ∧ first.benchmark = second.benchmark := by
  constructor
  · intro same
    have characters :
        first.opening.toList ++ first.benchmark.toList =
          second.opening.toList ++ second.benchmark.toList := by
      rw [← String.toList_append, ← String.toList_append, same]
    have secondBoth :
        second.opening.toList <+: first.opening.toList ++ first.benchmark.toList :=
      ⟨_, characters.symm⟩
    have sameOpening : first.opening = second.opening := by
      rcases List.prefix_or_prefix_of_prefix (List.prefix_append _ _) secondBoth with
        firstBegins | secondBegins
      · exact opening_eq_of_isPrefix firstTelling firstBegins characters
      · exact (opening_eq_of_isPrefix secondTelling secondBegins characters.symm).symm
    refine ⟨sameOpening, ?_⟩
    rwa [sameOpening, String.append_right_inj] at same
  · rintro ⟨sameOpening, sameBenchmark⟩
    rw [sameOpening, sameBenchmark]

/-- Outside a database equal file names are those of one functor. -/
theorem fileName_eq_iff_of_isTelling
    {first second : FunctorName}
    (firstTelling : first.IsTelling)
    (secondTelling : second.IsTelling) :
    first.fileName = second.fileName ↔ SameFunctor first second := by
  have underscore : "_".toList = ['_'] := by decide
  rw [fileName_of_outside firstTelling.outside, fileName_of_outside secondTelling.outside,
    append_sign_eq_iff_of_rest underscore firstTelling.flavor secondTelling.flavor,
    opening_append_eq_iff firstTelling secondTelling, opening_eq_iff]
  constructor
  · rintro ⟨⟨⟨role, variant⟩, benchmark⟩, flavor⟩
    exact ⟨role, benchmark, flavor, variant⟩
  · rintro ⟨role, benchmark, flavor, variant⟩
    exact ⟨⟨⟨role, variant⟩, benchmark⟩, flavor⟩

/-- In a database equal file names of one step say that benchmark and flavor are joined alike. -/
theorem fileName_eq_iff_of_forDatabase
    {first second : FunctorName}
    (firstStored : first.forDatabase = true)
    (secondStored : second.forDatabase = true)
    (sameRole : first.role = second.role)
    (hasForm : first.role ≠ .clean) :
    first.fileName = second.fileName ↔
      first.benchmark ++ first.flavor = second.benchmark ++ second.flavor := by
  rw [fileName, fileName, firstStored, secondStored, ← sameRole]
  cases role : first.role with
  | clean =>
      exact absurd role hasForm
  | build | analyze | run =>
      exact String.append_right_inj _

/--
Outside a database the file name of a functor identifies its step, benchmark and flavor, and the
variant of a build, if flavors have no underscore and benchmarks begin with no opening word.  In a
database it identifies benchmark and flavor joined together, whatever the variant is.
-/
theorem fileName_identifies
    (first second : FunctorName) :
    IdentifiedByFile first second :=
  ⟨fileName_eq_iff_of_isTelling, fileName_eq_iff_of_forDatabase⟩

/-- The variant of a clean functor is in no file name, and joined names share theirs. -/
theorem fileName_identifies_cleanVariants :
    let clean : FunctorName := ⟨.clean, false, true, "astar", "clang"⟩
    let otherClean : FunctorName := ⟨.clean, false, false, "astar", "clang"⟩
    let stored : FunctorName := ⟨.build, true, true, "lulesh", "gcc"⟩
    let otherStored : FunctorName := ⟨.build, true, false, "lules", "hgcc"⟩
    clean.IsTelling ∧ otherClean.IsTelling ∧ clean.fileName = otherClean.fileName ∧
      SameFunctor clean otherClean ∧
      stored.benchmark ++ stored.flavor = otherStored.benchmark ++ otherStored.flavor ∧
      stored.fileName = otherStored.fileName := by
  intro clean otherClean stored otherStored
  have telling : clean.IsTelling := ⟨rfl, by decide, by decide⟩
  have otherTelling : otherClean.IsTelling := ⟨rfl, by decide, by decide⟩
  have sameFile : clean.fileName = otherClean.fileName := rfl
  have sameJoin : stored.benchmark ++ stored.flavor = otherStored.benchmark ++ otherStored.flavor :=
    by decide
  refine ⟨telling, otherTelling, sameFile, ?_, sameJoin, ?_⟩
  · exact ((fileName_identifies clean otherClean).outside telling otherTelling).mp sameFile
  · exact ((fileName_identifies stored otherStored).database rfl rfl rfl (by decide)).mpr sameJoin

/-- A benchmark that begins with an opening word is taken for another step. -/
example : (plain .build "clean_x" "ct").fileName = (plain .clean "x" "ct").fileName := by
  decide

/-- A flavor with an underscore is taken for a part of the benchmark. -/
example : (plain .run "x_y" "ct").fileName = (plain .run "x" "y_ct").fileName := by
  decide

end FunctorName

end BenchmarkOrchestration
