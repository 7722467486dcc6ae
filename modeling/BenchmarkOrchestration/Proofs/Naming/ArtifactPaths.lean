import BenchmarkOrchestration.Proofs.Naming.PlainPath

namespace BenchmarkOrchestration

/-!
# Paths of different targets

Flavor and benchmark stand in every path with a dash between them.  Below one directory different
targets have different paths if no flavor has a dash, and a profile has another path in another
iteration.  Only the two kinds of selection files can meet: the one of the iteration before has the
name of a benchmark with `previous` at its end.
-/

namespace Artifact

/-- Equal paths are those of one flavor and one benchmark, if the flavors have no dash. -/
def TellsTarget
    (path : (flavor benchmark : String) → String) :
    Prop :=
  ∀ flavor benchmark otherFlavor otherBenchmark,
    '-' ∉ flavor.toList →
      '-' ∉ otherFlavor.toList →
        (path flavor benchmark = path otherFlavor otherBenchmark ↔
          flavor = otherFlavor ∧ benchmark = otherBenchmark)

/-- The paths of targets below one directory, kept apart by flavor, benchmark and iteration. -/
structure KeepsTargetsApart
    (directory : String) :
    Prop where
  selection : TellsTarget (selectionFile directory)
  previous : TellsTarget (previousSelectionFile directory)
  callGraph : TellsTarget fun flavor benchmark => callGraphFile directory benchmark flavor
  profile :
    ∀ flavor benchmark iteration otherFlavor otherBenchmark otherIteration path,
      '-' ∉ flavor.toList →
        '-' ∉ otherFlavor.toList →
          profileFile directory flavor benchmark iteration = .ok path →
            profileFile directory otherFlavor otherBenchmark otherIteration = .ok path →
              flavor = otherFlavor ∧ benchmark = otherBenchmark ∧ iteration = otherIteration
  meeting :
    ∀ flavor benchmark otherFlavor otherBenchmark,
      '-' ∉ flavor.toList →
        '-' ∉ otherFlavor.toList →
          (selectionFile directory flavor benchmark =
              previousSelectionFile directory otherFlavor otherBenchmark ↔
            flavor = otherFlavor ∧ benchmark = otherBenchmark ++ "previous")

/-- The first dash of a text separates its parts. -/
theorem append_dash_eq_iff
    {flavor otherFlavor rest otherRest : String}
    (dashless : '-' ∉ flavor.toList)
    (otherDashless : '-' ∉ otherFlavor.toList) :
    flavor ++ "-" ++ rest = otherFlavor ++ "-" ++ otherRest ↔
      flavor = otherFlavor ∧ rest = otherRest := by
  have dash : "-".toList = ['-'] := by decide
  exact append_sign_eq_iff_of_front dash dashless otherDashless

/-- A path with flavor, dash and benchmark between fixed texts tells the target. -/
theorem tellsTarget_of_shape
    {path : (flavor benchmark : String) → String}
    {front back : String}
    (shape :
      ∀ flavor benchmark, path flavor benchmark = front ++ (flavor ++ "-" ++ benchmark) ++ back) :
    TellsTarget path := by
  intro flavor benchmark otherFlavor otherBenchmark dashless otherDashless
  rw [shape, shape, String.append_left_inj, String.append_right_inj,
    append_dash_eq_iff dashless otherDashless]

/-- A selection file is named by its flavor and its benchmark. -/
theorem selectionFile_eq
    (directory flavor benchmark : String) :
    selectionFile directory flavor benchmark =
      directory ++ "/out/instrumented-" ++ (flavor ++ "-" ++ benchmark) ++ ".txt" := by
  simp only [selectionFile, toString, String.append_assoc]

/-- The selection file of the iteration before is that of a benchmark with a longer name. -/
theorem previousSelectionFile_eq
    (directory flavor benchmark : String) :
    previousSelectionFile directory flavor benchmark =
      selectionFile directory flavor (benchmark ++ "previous") := by
  simp only [previousSelectionFile, selectionFile, toString, String.append_assoc]
  rfl

/-- A call graph is named by its flavor and its benchmark. -/
theorem callGraphFile_eq
    (directory flavor benchmark : String) :
    callGraphFile directory benchmark flavor =
      directory ++ "/" ++ (flavor ++ "-" ++ benchmark) ++ ".ipcg" := by
  simp only [callGraphFile, toString, String.append_assoc]

/-- In the path of a profile the flavor, the iteration and the benchmark follow each other. -/
theorem profilePath_eq
    (directory flavor benchmark : String)
    (iteration : Nat) :
    profileDirectory directory flavor iteration ++ "/" ++ flavor ++ "-" ++ benchmark ++ ".cubex" =
      directory ++ "-" ++
          (flavor ++ "-" ++ (toString iteration ++ "/" ++ (flavor ++ "-" ++ benchmark))) ++
        ".cubex" := by
  simp only [profileDirectory, toString, String.append_assoc]

/-- The slash behind a number is the first one. -/
theorem append_slash_eq_iff
    {iteration otherIteration : Nat}
    {rest otherRest : String} :
    toString iteration ++ "/" ++ rest = toString otherIteration ++ "/" ++ otherRest ↔
      iteration = otherIteration ∧ rest = otherRest := by
  have slash : "/".toList = ['/'] := by decide
  have noSlash : ∀ number : Nat, '/' ∉ (toString number).toList := by
    intro number member
    have isDigit := isDigit_of_mem_toString member
    contradiction
  rw [append_sign_eq_iff_of_front slash (noSlash iteration) (noSlash otherIteration),
    toString_eq_iff]

/-- Profiles with one path are those of one target in one iteration. -/
theorem eq_of_profileFile_eq_ok
    {directory flavor benchmark otherFlavor otherBenchmark path : String}
    {iteration otherIteration : Nat}
    (dashless : '-' ∉ flavor.toList)
    (otherDashless : '-' ∉ otherFlavor.toList)
    (given : profileFile directory flavor benchmark iteration = .ok path)
    (otherGiven : profileFile directory otherFlavor otherBenchmark otherIteration = .ok path) :
    flavor = otherFlavor ∧ benchmark = otherBenchmark ∧ iteration = otherIteration := by
  obtain ⟨_, rfl⟩ := profileFile_eq_ok_iff.mp given
  obtain ⟨_, same⟩ := profileFile_eq_ok_iff.mp otherGiven
  rw [profilePath_eq, profilePath_eq, String.append_left_inj, String.append_right_inj,
    append_dash_eq_iff otherDashless dashless, append_slash_eq_iff,
    append_dash_eq_iff otherDashless dashless] at same
  obtain ⟨rfl, rfl, _, rfl⟩ := same
  exact ⟨rfl, rfl, rfl⟩

/--
Below every directory the paths of different targets are different, if no flavor has a dash, and so
are the profiles of different iterations.  A selection file is the one before of another target
exactly if the flavors are the same and the benchmark has `previous` at its end.
-/
theorem paths_keepTargetsApart
    (directory : String) :
    KeepsTargetsApart directory := by
  have selection : TellsTarget (selectionFile directory) :=
    tellsTarget_of_shape (selectionFile_eq directory)
  constructor
  · exact selection
  · intro flavor benchmark otherFlavor otherBenchmark dashless otherDashless
    rw [previousSelectionFile_eq, previousSelectionFile_eq,
      selection _ _ _ _ dashless otherDashless, String.append_left_inj]
  · exact tellsTarget_of_shape (callGraphFile_eq directory)
  · intro flavor benchmark iteration otherFlavor otherBenchmark otherIteration path dashless
      otherDashless given otherGiven
    exact eq_of_profileFile_eq_ok dashless otherDashless given otherGiven
  · intro flavor benchmark otherFlavor otherBenchmark dashless otherDashless
    rw [previousSelectionFile_eq]
    exact selection _ _ _ _ dashless otherDashless

/-- The selection file before of one benchmark is the selection file of another. -/
theorem paths_keepTargetsApart_previous :
    '-' ∉ "ct".toList ∧
      profileFile "/exp/a" "ct" "a-1" 12 = .ok "/exp/a-ct-12/ct-a-1.cubex" ∧
      selectionFile "/an" "ct" "astarprevious" = previousSelectionFile "/an" "ct" "astar" ∧
      selectionFile "/an" "ct" "astar" ≠ previousSelectionFile "/an" "ct" "astar" := by
  have dashless : '-' ∉ "ct".toList := by decide
  have apart := paths_keepTargetsApart "/an"
  refine ⟨dashless, by decide +kernel, ?_, ?_⟩
  · exact (apart.meeting _ _ _ _ dashless dashless).mpr ⟨rfl, rfl⟩
  · rw [Ne, apart.meeting _ _ _ _ dashless dashless]
    decide

/-- With dashes in flavors two targets can have one path. -/
example : selectionFile "/an" "a-b" "c" = selectionFile "/an" "a" "b-c" := by
  decide

end Artifact

end BenchmarkOrchestration
