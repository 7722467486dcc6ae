import BenchmarkOrchestration.Proofs.Naming.PlainPath
import BenchmarkOrchestration.Proofs.Orchestration.AnalysisCourse

namespace BenchmarkOrchestration

/-!
# Files on the command line of an analysis

The command of an analysis names the call graph behind the text of its functor, and then the profile
if the phase is the instrumented run of an iteration.  The files are refused for one reason only: a
profile is needed and its directory is not plain.
-/

/-- A profile is analyzed in the instrumented run of an iteration, and in no other phase. -/
theorem Phase.profiledIteration_eq_some_iff
    {phase : Phase}
    {iteration : Nat} :
    phase.profiledIteration = some iteration ↔
      phase.isInstrumented = true ∧ phase.iteration = some iteration := by
  rw [profiledIteration]
  cases phase.isInstrumented <;> simp

namespace Analysis

/--
The text of an analysis command: what the functor gave and the call graph, and behind them the
profile if the phase is the instrumented run of an iteration.
-/
inductive IsCommandText
    (item : Item)
    (flavor : String)
    (phase : Phase)
    (base : String) :
    String → Prop
  | callGraph
      (unprofiled : phase.isInstrumented = false ∨ phase.iteration = none) :
      IsCommandText item flavor phase base
        (base ++ " " ++ Artifact.callGraphFile item.analyzerDirectory item.benchmark flavor)
  | profiled
      (iteration : Nat)
      (isInstrumented : phase.isInstrumented = true)
      (iterated : phase.iteration = some iteration)
      (profile : String)
      (given :
        Artifact.profileFile item.profileDirectory flavor item.benchmark iteration = .ok profile) :
      IsCommandText item flavor phase base
        (base ++ " " ++
          Artifact.callGraphFile item.analyzerDirectory item.benchmark flavor ++ " " ++ profile)

/-- The files behind the text of the functor are the call graph and, if there is one, a profile. -/
theorem isCommandText_of_fileArguments
    {item : Item}
    {flavor : String}
    {phase : Phase}
    {arguments : List String}
    (valid : fileArguments item flavor phase = .ok arguments)
    (base : String) :
    IsCommandText item flavor phase base (commandText base arguments) := by
  rw [fileArguments] at valid
  cases profiled : phase.profiledIteration with
  | none =>
      simp only [profiled, Document.pure_eq_ok_iff] at valid
      subst valid
      have unprofiled : phase.isInstrumented = false ∨ phase.iteration = none := by
        rw [Phase.profiledIteration] at profiled
        cases isInstrumented : phase.isInstrumented with
        | false => exact .inl rfl
        | true => exact .inr (by simpa [isInstrumented] using profiled)
      rw [commandText, String.intercalate_cons_cons, String.intercalate_singleton]
      exact .callGraph unprofiled
  | some iteration =>
      obtain ⟨isInstrumented, iterated⟩ := Phase.profiledIteration_eq_some_iff.mp profiled
      simp only [profiled, Document.bind_eq_ok_iff, Document.pure_eq_ok_iff] at valid
      obtain ⟨profile, given, rfl⟩ := valid
      have shape :
          commandText base
              [ Artifact.callGraphFile item.analyzerDirectory item.benchmark flavor, profile ] =
            base ++ " " ++
              Artifact.callGraphFile item.analyzerDirectory item.benchmark flavor ++ " " ++
              profile := by
        rw [commandText, String.intercalate_cons_cons, String.intercalate_cons_cons,
          String.intercalate_singleton]
        simp only [String.append_assoc]
      rw [shape]
      exact .profiled iteration isInstrumented iterated profile given

/-- Files are refused exactly if a profile is needed whose directory is not plain. -/
theorem fileArguments_eq_error_iff
    {item : Item}
    {flavor : String}
    {phase : Phase}
    {fault : DocumentFault} :
    fileArguments item flavor phase = .error fault ↔
      ∃ iteration,
        phase.isInstrumented = true ∧
          phase.iteration = some iteration ∧
          Artifact.isPlainPath (Artifact.profileDirectory item.profileDirectory flavor iteration) =
            false ∧
          fault =
            .invalidPath (Artifact.profileDirectory item.profileDirectory flavor iteration) := by
  simp only [← and_assoc, ← Phase.profiledIteration_eq_some_iff]
  rw [fileArguments]
  cases phase.profiledIteration with
  | none =>
      simp [Document.pure_ne_error]
  | some iteration =>
      simp only [Document.bind_eq_error_iff, Document.pure_ne_error, Option.some.injEq, and_assoc,
        exists_eq_left', and_false, exists_false, or_false, Artifact.profileFile,
        Artifact.checkedProfileDirectory]
      cases plain :
          Artifact.isPlainPath
            (Artifact.profileDirectory item.profileDirectory flavor iteration) <;>
        simp [eq_comm]

end Analysis

end BenchmarkOrchestration
