import BenchmarkOrchestration.Document.Reader
import BenchmarkOrchestration.Proofs.Orchestration.AnalysisFiles
import BenchmarkOrchestration.Recording.Recorder

namespace BenchmarkOrchestration

/-!
# The profile on the command line

The command of an instrumented analysis ends with the path of a profile.  The directory of the
profile is checked before the command is handed over, and the flavor with it, since it is a part of
the name of the directory.  The name of the file is not checked: the path is made of plain
characters exactly if the benchmark is.
-/

namespace Analysis

/-- A command analyzes a profile: it has the call graph and the profile behind its own text. -/
structure AnalyzesProfile
    (item : Item)
    (flavor : String)
    (iteration : Nat)
    (base profile text : String) :
    Prop where
  given :
    Artifact.profileFile item.profileDirectory flavor item.benchmark iteration = .ok profile
  text :
    text =
      base ++ " " ++ Artifact.callGraphFile item.analyzerDirectory item.benchmark flavor ++ " " ++
        profile
  experimentsPlain : Artifact.isPlainPath item.profileDirectory = true
  flavorPlain : Artifact.isPlainPath flavor = true
  plain_iff :
    Artifact.isPlainPath profile = true ↔ Artifact.isPlainPath item.benchmark = true

/-- With a profile that has a path, the text of the command ends with this path. -/
theorem analyzesProfile_of_fileArguments
    {item : Item}
    {flavor : String}
    {iteration : Nat}
    {arguments : List String}
    (valid : fileArguments item flavor (.instrumented iteration) = .ok arguments)
    (base : String) :
    ∃ profile, AnalyzesProfile item flavor iteration base profile (commandText base arguments) := by
  generalize commandText base arguments = text, isCommandText_of_fileArguments valid base = shape
  cases shape with
  | callGraph unprofiled =>
      rcases unprofiled with notInstrumented | notIterated
      · cases notInstrumented
      · cases notIterated
  | profiled _ _ iterated profile given =>
      cases iterated
      have plain :=
        Artifact.isPlainPath_profileDirectory_iff.mp (Artifact.profileFile_eq_ok_iff.mp given).1
      exact
        ⟨profile, given, rfl, plain.1, plain.2, Artifact.isPlainPath_profileFile_iff given⟩

/-- Every command of the instrumented analysis of an item analyzes the profile of its iteration. -/
theorem ItemCourse.analyzesProfile
    {isDry : Bool}
    {item : Item}
    {flavor : String}
    {iteration : Nat}
    {exchanges : Transcript ι}
    {result : Except Failure AnalysisOutcome}
    (course : ItemCourse isDry item flavor (.instrumented iteration) exchanges result)
    {command : Command}
    {answer : Except CommandFault CommandOutput}
    (handed : (command, answer) ∈ exchanges.commands) :
    ∃ handle base profile,
      (handle, .ok base) ∈ exchanges.invocations .passive ∧
        AnalyzesProfile item flavor iteration base profile command.text := by
  rcases course.commands_eq_nil_or with nothing | stages
  · rw [nothing] at handed
    cases handed
  · obtain ⟨functor, base, arguments, given, _, valid, rfl⟩ := stages
    obtain ⟨profile, analyzes⟩ := analyzesProfile_of_fileArguments valid base
    have only :
        (command, answer) =
          (.inDirectory (commandText base arguments) item.analyzerDirectory isDry, given) :=
      List.mem_singleton.mp handed
    obtain ⟨rfl, rfl⟩ := Prod.mk.inj only
    exact ⟨functor.handle, base, profile, List.mem_singleton_self _, analyzes⟩

/-- The files of an instrumented analysis are refused exactly if a profile directory is unsafe. -/
theorem fileArguments_instrumented_fails_iff
    {item : Item}
    {flavor : String}
    {iteration : Nat} :
    (∃ fault, fileArguments item flavor (.instrumented iteration) = .error fault) ↔
      Artifact.isPlainPath (Artifact.profileDirectory item.profileDirectory flavor iteration) =
        false := by
  constructor
  · rintro ⟨fault, refused⟩
    obtain ⟨_, _, iterated, notPlain, _⟩ := fileArguments_eq_error_iff.mp refused
    cases iterated
    exact notPlain
  · intro notPlain
    exact ⟨_, fileArguments_eq_error_iff.mpr ⟨iteration, rfl, rfl, notPlain, rfl⟩⟩

/-- Once a passive functor has given its text, only an unsafe directory withholds the command. -/
theorem ItemCourse.commands_eq_nil_iff
    {isDry : Bool}
    {item : Item}
    {flavor : String}
    {iteration : Nat}
    {exchanges : Transcript ι}
    {result : Except Failure AnalysisOutcome}
    (course : ItemCourse isDry item flavor (.instrumented iteration) exchanges result)
    {handle : ι}
    {base : String}
    (asked : (handle, .ok base) ∈ exchanges.invocations .passive) :
    exchanges.commands = [] ↔
      Artifact.isPlainPath (Artifact.profileDirectory item.profileDirectory flavor iteration) =
        false := by
  rw [← fileArguments_instrumented_fails_iff]
  cases course with
  | unresolved fault => cases asked
  | skipped functor isActive dry => cases asked
  | refused functor isActive real fault => cases asked
  | delegated functor isActive real output => cases asked
  | textRefused functor isPassive fault =>
      simp [analyzerExchange, functorExchange] at asked
  | argumentsRefused functor isPassive given fault invalid =>
      exact iff_of_true rfl ⟨fault, invalid⟩
  | commandFailed functor isPassive given arguments valid fault =>
      rw [valid]
      exact iff_of_false (List.cons_ne_nil _ _) (by simp)
  | commanded functor isPassive given arguments valid output =>
      rw [valid]
      exact iff_of_false (List.cons_ne_nil _ _) (by simp)

end Analysis

/--
The profile on the command line is guarded by its directory: a command has its path behind its own
text and the call graph, and is withheld exactly if the directory of the profile is not plain.
-/
structure GuardsProfile
    (config : Configuration)
    (target : Target)
    (iteration : Nat)
    (transcript : Transcript ι) :
    Prop where
  commandText :
    ∀ command answer,
      (command, answer) ∈ transcript.commands →
        ∃ item handle base profile,
          config.item target.build target.item = .ok item ∧
            (handle, .ok base) ∈ transcript.invocations .passive ∧
            Analysis.AnalyzesProfile item target.flavor iteration base profile command.text
  withheld_iff :
    ∀ item handle base,
      config.item target.build target.item = .ok item →
        (handle, .ok base) ∈ transcript.invocations .passive →
          (transcript.commands = [] ↔
            Artifact.isPlainPath
                (Artifact.profileDirectory item.profileDirectory target.flavor iteration) =
              false)

namespace Configuration

/--
An instrumented analysis guards the profile on its command line by the directory of the profile,
whatever the facilities answer.  The path is plain exactly if the benchmark of the item is.
-/
theorem analyze_guardsProfile
    (config : Configuration)
    (facilities : Facilities σ ι)
    (isDry : Bool)
    (target : Target)
    (iteration : Nat)
    (session : Session σ) :
    ∃ transcript result,
      RunsAs session (config.analyze facilities isDry target (.instrumented iteration))
          (config.analyze facilities.transcribed isDry target (.instrumented iteration)) transcript
          result ∧
        GuardsProfile config target iteration transcript := by
  obtain ⟨transcript, result, runs, course⟩ :=
    (analyze_follows config facilities session.state isDry target
      (.instrumented iteration)).exists_runsAs
  refine ⟨transcript, result, runs, ?_⟩
  cases course with
  | unknown fault missing =>
      constructor
      · intro command answer handed
        cases handed
      · intro item handle base known asked
        cases asked
  | found item known course =>
      constructor
      · intro command answer handed
        obtain ⟨handle, base, profile, asked, analyzes⟩ := course.analyzesProfile handed
        exact ⟨item, handle, base, profile, known, asked, analyzes⟩
      · intro other handle base otherKnown asked
        obtain rfl := Except.ok.inj (known.symm.trans otherKnown)
        exact course.commands_eq_nil_iff asked

/-- A document with a benchmark that has a mark of the interpreter in its name. -/
def markedNameDocument : Json.Value :=
  .object
    [ ("directories", .object []),
      ("builds", .object
        [("/b", .object
          [("items", .object
            [("x;rm", .object
              [ ("functors", .text "/f"), ("argmap", .object [("mapper", .text "linear")]),
                ("analyzer", .text "/an"), ("cubes", .text "/c"),
                ("flavors", .array [.text "ct"]) ])])])]) ]

/-- The configuration of the document. -/
def markedNameConfiguration : Configuration :=
  let item : Item :=
    { Item.plain "x;rm" (.uniform "/f") (.mapped (.empty .linear)) with
      analyzerDirectory := "/an"
      profileDirectory := "/c"
      flavors := ["ct"] }
  ⟨.simplified, [⟨"/b", none, [item]⟩], [], .empty⟩

/-- A recorder with a passive analysis functor for the benchmark. -/
def markedNameRecorder : Recorder where
  functors := [((Path.key "/f", "analyse_x;rm_ct"), ⟨"analyse_x;rm_ct", false, "pgis", none⟩)]
  calls := []
  commands := []
  stdout := ""
  failing := []
  tree := ⟨[]⟩
  here := []

/-- The path of a profile on the command line can have a mark of the interpreter in it. -/
theorem not_isPlainPath_profileFile_markedName :
    Document.read (.fixed .simplified) "/home" markedNameDocument = .ok markedNameConfiguration ∧
      Artifact.profileFile "/c" "ct" "x;rm" 1 = .ok "/c-ct-1/ct-x;rm.cubex" ∧
      Artifact.isPlainPath "/c-ct-1/ct-x;rm.cubex" = false ∧
      (markedNameConfiguration.analyze Recorder.facilities false ⟨"/b", "x;rm", "ct"⟩
          (.instrumented 1) (.start markedNameRecorder)).2.state.commands =
        [ .inDirectory "pgis /an/ct-x;rm.ipcg /c-ct-1/ct-x;rm.cubex" "/an" false ] := by
  decide +kernel

end Configuration

end BenchmarkOrchestration
