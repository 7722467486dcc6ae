import BenchmarkOrchestration.Naming.Artifact
import BenchmarkOrchestration.Proofs.Document.Results
import BenchmarkOrchestration.Proofs.Text.Separation

namespace BenchmarkOrchestration

/-!
# Plain paths

A path is plain part by part.  The directory of a profile is checked to be plain, and with it the
flavor, which is a part of its name; the path of the profile is plain exactly if the benchmark is.
-/

namespace Artifact

/-- A path in two parts is plain if both are. -/
theorem isPlainPath_append_iff
    {first second : String} :
    isPlainPath (first ++ second) = true ↔
      isPlainPath first = true ∧ isPlainPath second = true := by
  rw [isPlainPath, String.toList_append, List.all_append, Bool.and_eq_true]
  rfl

/-- Numbers are plain. -/
theorem isPlainPath_toString
    (number : Nat) :
    isPlainPath (toString number) = true := by
  rw [isPlainPath, List.all_eq_true]
  intro c member
  simp [isPlainChar, Char.isAlphanum, isDigit_of_mem_toString member]

/-- The directory of a profile is plain if the directory of the experiments and the flavor are. -/
theorem isPlainPath_profileDirectory_iff
    {experiments flavor : String}
    {iteration : Nat} :
    isPlainPath (profileDirectory experiments flavor iteration) = true ↔
      isPlainPath experiments = true ∧ isPlainPath flavor = true := by
  have shape :
      profileDirectory experiments flavor iteration =
        experiments ++ "-" ++ flavor ++ "-" ++ toString iteration :=
    rfl
  have mark : isPlainPath "-" = true := by decide
  simp only [shape, isPlainPath_append_iff, mark, isPlainPath_toString, and_true]

/-- The directory of a profile passes the check if it is plain. -/
theorem checkedProfileDirectory_eq_ok_iff
    {experiments flavor directory : String}
    {iteration : Nat} :
    checkedProfileDirectory experiments flavor iteration = .ok directory ↔
      isPlainPath (profileDirectory experiments flavor iteration) = true ∧
        profileDirectory experiments flavor iteration = directory := by
  rw [checkedProfileDirectory]
  by_cases plain : isPlainPath (profileDirectory experiments flavor iteration) = true
  · simp [plain]
  · simp [plain]

/-- A profile has a path if its directory is plain; the file in it is named without a check. -/
theorem profileFile_eq_ok_iff
    {experiments flavor benchmark path : String}
    {iteration : Nat} :
    profileFile experiments flavor benchmark iteration = .ok path ↔
      isPlainPath (profileDirectory experiments flavor iteration) = true ∧
        profileDirectory experiments flavor iteration ++ "/" ++ flavor ++ "-" ++ benchmark ++
            ".cubex" =
          path := by
  rw [profileFile, Document.bind_eq_ok_iff]
  simp only [checkedProfileDirectory_eq_ok_iff, Document.pure_eq_ok_iff]
  constructor
  · rintro ⟨directory, ⟨plain, rfl⟩, shape⟩
    exact ⟨plain, shape⟩
  · rintro ⟨plain, shape⟩
    exact ⟨_, ⟨plain, rfl⟩, shape⟩

/-- The path of a profile is plain exactly if the benchmark is. -/
theorem isPlainPath_profileFile_iff
    {experiments flavor benchmark path : String}
    {iteration : Nat}
    (given : profileFile experiments flavor benchmark iteration = .ok path) :
    isPlainPath path = true ↔ isPlainPath benchmark = true := by
  obtain ⟨plain, rfl⟩ := profileFile_eq_ok_iff.mp given
  have flavorPlain := (isPlainPath_profileDirectory_iff.mp plain).2
  have slash : isPlainPath "/" = true := by decide
  have mark : isPlainPath "-" = true := by decide
  have ending : isPlainPath ".cubex" = true := by decide
  simp only [isPlainPath_append_iff, plain, flavorPlain, slash, mark, ending, true_and, and_true]

end Artifact

end BenchmarkOrchestration
