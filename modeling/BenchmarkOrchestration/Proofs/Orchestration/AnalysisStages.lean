import BenchmarkOrchestration.Proofs.Orchestration.AnalysisFiles

namespace BenchmarkOrchestration

/-!
# Stages of an analysis

An analysis finds its item, finds the functor, lets it work or asks it for a text, names the files
of the command and hands the command over.  The stages come in this order, and one that fails is the
last: its failure is the result.  The directory of a profile is checked between the text of the
functor and the command, so that no command is handed over with a directory that is not plain.
-/

/-- The failure with which an answer ends an operation. -/
def Exchange.failure? : Exchange ι → Option Failure
  | .resolved _ _ (.error fault) => some (.functor fault)
  | .invoked _ _ _ (.error fault) => some (.functor fault)
  | .commanded _ (.error fault) => some (.command fault)
  | .resolved _ _ (.ok _) => none
  | .invoked _ _ _ (.ok _) => none
  | .commanded _ (.ok _) => none

/-- The failure of the last exchange. -/
def Transcript.lastFailure?
    (transcript : Transcript ι) :
    Option Failure :=
  transcript.getLast?.bind Exchange.failure?

namespace Analysis

/-- A command is handed over after all other stages, each of which has given what it needs. -/
structure HandsOver
    (config : Configuration)
    (isDry : Bool)
    (target : Target)
    (phase : Phase)
    (transcript : Transcript ι)
    (command : Command)
    (answer : Except CommandFault CommandOutput)
    (item : Item)
    (functor : ResolvedFunctor ι)
    (base : String) :
    Prop where
  known : config.item target.build target.item = .ok item
  isPassive : functor.isActive = false
  stages :
    transcript =
      [ analyzerExchange item target.flavor (.ok functor),
        functorExchange item .passive functor (.ok base),
        .commanded command answer ]
  text : IsCommandText item target.flavor phase base command.text
  directory : command.directory = some item.analyzerDirectory
  isDry : command.isDry = isDry

/-- A passive functor has given its text, but the profile is in a directory that is not plain. -/
structure LacksProfile
    (config : Configuration)
    (target : Target)
    (phase : Phase)
    (transcript : Transcript ι)
    (item : Item)
    (iteration : Nat) :
    Prop where
  known : config.item target.build target.item = .ok item
  asked : ∃ handle base, (handle, .ok base) ∈ transcript.invocations .passive
  isInstrumented : phase.isInstrumented = true
  iterated : phase.iteration = some iteration
  notPlain :
    Artifact.isPlainPath
        (Artifact.profileDirectory item.profileDirectory target.flavor iteration) =
      false

/-- The failure of an analysis that lacks its profile. -/
def invalidProfile
    (target : Target)
    (item : Item)
    (iteration : Nat) :
    Failure :=
  .document (.invalidPath (Artifact.profileDirectory item.profileDirectory target.flavor iteration))

/--
An analysis runs by its stages: at most one command ends it, an active functor works without one,
and a stage that fails is followed by no other and gives the result.
-/
structure RunsByStages
    (config : Configuration)
    (isDry : Bool)
    (target : Target)
    (phase : Phase)
    (transcript : Transcript ι)
    (result : Except Failure AnalysisOutcome) :
    Prop where
  atMostOneCommand : transcript.commands.length ≤ 1
  handedOver :
    ∀ command answer,
      (command, answer) ∈ transcript.commands →
        ∃ item functor base,
          HandsOver config isDry target phase transcript command answer item functor base
  reported_iff :
    ∀ text output,
      result = .ok (.commanded text output) ↔
        ∃ command given,
          (command, .ok given) ∈ transcript.commands ∧
            command.text = text ∧ given.stdout = output
  lookedUp :
    ∀ item,
      config.item target.build target.item = .ok item →
        ∃ answer rest, transcript = analyzerExchange item target.flavor answer :: rest
  passive :
    ∀ functor ∈ transcript.functors .analyze,
      functor.isActive = false →
        transcript.invocations .active = [] ∧
          ∃ answer, transcript.invocations .passive = [(functor.handle, answer)]
  active :
    ∀ functor ∈ transcript.functors .analyze,
      functor.isActive = true →
        transcript.commands = [] ∧
          transcript.invocations .passive = [] ∧
          (isDry = true →
            transcript.invocations .active = [] ∧ result = .ok (.delegated "")) ∧
          (isDry = false →
            ∃ answer,
              transcript.invocations .active = [(functor.handle, answer)] ∧
                ∀ output, answer = .ok output → result = .ok (.delegated output))
  delegated :
    ∀ output,
      result = .ok (.delegated output) →
        ∃ functor ∈ transcript.functors .analyze, functor.isActive = true
  unknown :
    ∀ fault,
      config.item target.build target.item = .error fault →
        transcript = [] ∧ result = .error (.lookup fault)
  lacksProfile :
    ∀ item iteration,
      LacksProfile config target phase transcript item iteration →
        transcript.commands = [] ∧ result = .error (invalidProfile target item iteration)
  onlyLastFails : ∀ exchange ∈ transcript.dropLast, exchange.failure? = none
  lastFailure :
    ∀ failure, transcript.lastFailure? = some failure → result = .error failure
  failed :
    ∀ failure,
      result = .error failure →
        (∃ fault,
          config.item target.build target.item = .error fault ∧ failure = .lookup fault) ∨
          transcript.lastFailure? = some failure ∨
          ∃ item iteration,
            LacksProfile config target phase transcript item iteration ∧
              failure = invalidProfile target item iteration

section

variable
  {config : Configuration}
  {isDry : Bool}
  {target : Target}
  {item : Item}
  {flavor : String}
  {phase : Phase}
  {exchanges : Transcript ι}
  {result : Except Failure AnalysisOutcome}

attribute [local simp]
  analyzerExchange
  functorExchange
  commandExchange
  FunctorName.plain
  Exchange.failure?
  Transcript.lastFailure?

/-- An analysis hands over one command at most. -/
theorem ItemCourse.atMostOneCommand
    (course : ItemCourse isDry item flavor phase exchanges result) :
    exchanges.commands.length ≤ 1 := by
  rcases course.commands_eq_nil_or with nothing | stages
  · rw [nothing]
    exact Nat.zero_le 1
  · obtain ⟨functor, base, arguments, answer, _, _, rfl⟩ := stages
    exact Nat.le_refl 1

/-- A command of an analysis has all other stages before it. -/
theorem ItemCourse.exists_handsOver
    (known : config.item target.build target.item = .ok item)
    (course : ItemCourse isDry item target.flavor phase exchanges result)
    {command : Command}
    {answer : Except CommandFault CommandOutput}
    (handed : (command, answer) ∈ exchanges.commands) :
    ∃ item functor base,
      HandsOver config isDry target phase exchanges command answer item functor base := by
  rcases course.commands_eq_nil_or with nothing | stages
  · rw [nothing] at handed
    cases handed
  · obtain ⟨functor, base, arguments, given, isPassive, valid, rfl⟩ := stages
    obtain ⟨rfl, rfl⟩ := Prod.mk.inj (List.mem_singleton.mp handed)
    exact ⟨item, functor, base, {
      known
      isPassive
      stages := rfl
      text := isCommandText_of_fileArguments valid base
      directory := rfl
      isDry := rfl }⟩

/-- The command that is reported is the one that was handed over, with its output. -/
theorem ItemCourse.reported_iff
    (course : ItemCourse isDry item flavor phase exchanges result)
    (text output : String) :
    result = .ok (.commanded text output) ↔
      ∃ command given,
        (command, .ok given) ∈ exchanges.commands ∧
          command.text = text ∧ given.stdout = output := by
  cases course with
  | unresolved fault => simp
  | skipped functor isActive dry => simp
  | refused functor isActive real fault => simp
  | delegated functor isActive real given => simp
  | textRefused functor isPassive fault => simp
  | argumentsRefused functor isPassive base fault invalid => simp
  | commandFailed functor isPassive base arguments valid fault => simp
  | commanded functor isPassive base arguments valid given => simp [Command.inDirectory]

/-- A passive functor is asked once and never works itself. -/
theorem ItemCourse.passive
    (course : ItemCourse isDry item flavor phase exchanges result)
    {functor : ResolvedFunctor ι}
    (found : functor ∈ exchanges.functors .analyze)
    (isPassive : functor.isActive = false) :
    exchanges.invocations .active = [] ∧
      ∃ answer, exchanges.invocations .passive = [(functor.handle, answer)] := by
  have not_active : functor.isActive ≠ true := by simp [isPassive]
  cases course with
  | unresolved fault =>
      cases found
  | skipped other isActive dry =>
      obtain rfl := List.mem_singleton.mp found
      exact absurd isActive not_active
  | refused other isActive real fault =>
      obtain rfl := List.mem_singleton.mp found
      exact absurd isActive not_active
  | delegated other isActive real given =>
      obtain rfl := List.mem_singleton.mp found
      exact absurd isActive not_active
  | textRefused other _ fault =>
      obtain rfl := List.mem_singleton.mp found
      exact ⟨rfl, _, rfl⟩
  | argumentsRefused other _ base fault invalid =>
      obtain rfl := List.mem_singleton.mp found
      exact ⟨rfl, _, rfl⟩
  | commandFailed other _ base arguments valid fault =>
      obtain rfl := List.mem_singleton.mp found
      exact ⟨rfl, _, rfl⟩
  | commanded other _ base arguments valid given =>
      obtain rfl := List.mem_singleton.mp found
      exact ⟨rfl, _, rfl⟩

/-- An active functor works once, or not at all in a dry run, and gets no command. -/
theorem ItemCourse.active
    (course : ItemCourse isDry item flavor phase exchanges result)
    {functor : ResolvedFunctor ι}
    (found : functor ∈ exchanges.functors .analyze)
    (isActive : functor.isActive = true) :
    exchanges.commands = [] ∧
      exchanges.invocations .passive = [] ∧
      (isDry = true → exchanges.invocations .active = [] ∧ result = .ok (.delegated "")) ∧
      (isDry = false →
        ∃ answer,
          exchanges.invocations .active = [(functor.handle, answer)] ∧
            ∀ output, answer = .ok output → result = .ok (.delegated output)) := by
  have not_passive : functor.isActive ≠ false := by simp [isActive]
  cases course with
  | unresolved fault =>
      cases found
  | skipped other _ dry =>
      refine ⟨rfl, rfl, fun _ => ⟨rfl, rfl⟩, ?_⟩
      rw [dry]
      exact fun real => absurd real.symm Bool.false_ne_true
  | refused other _ real fault =>
      obtain rfl := List.mem_singleton.mp found
      refine ⟨rfl, rfl, ?_, fun _ => ⟨.error fault, rfl, ?_⟩⟩
      · rw [real]
        exact fun dry => absurd dry Bool.false_ne_true
      · intro output succeeded
        cases succeeded
  | delegated other _ real given =>
      obtain rfl := List.mem_singleton.mp found
      refine ⟨rfl, rfl, ?_, fun _ => ⟨.ok given, rfl, ?_⟩⟩
      · rw [real]
        exact fun dry => absurd dry Bool.false_ne_true
      · intro output succeeded
        rw [Except.ok.inj succeeded]
  | textRefused other isPassive fault =>
      obtain rfl := List.mem_singleton.mp found
      exact absurd isPassive not_passive
  | argumentsRefused other isPassive base fault invalid =>
      obtain rfl := List.mem_singleton.mp found
      exact absurd isPassive not_passive
  | commandFailed other isPassive base arguments valid fault =>
      obtain rfl := List.mem_singleton.mp found
      exact absurd isPassive not_passive
  | commanded other isPassive base arguments valid given =>
      obtain rfl := List.mem_singleton.mp found
      exact absurd isPassive not_passive

/-- What is delegated is done by an active functor. -/
theorem ItemCourse.delegated_active
    (course : ItemCourse isDry item flavor phase exchanges result)
    {output : String}
    (done : result = .ok (.delegated output)) :
    ∃ functor ∈ exchanges.functors .analyze, functor.isActive = true := by
  cases course with
  | skipped functor isActive dry => exact ⟨functor, List.mem_singleton_self functor, isActive⟩
  | delegated functor isActive real given =>
      exact ⟨functor, List.mem_singleton_self functor, isActive⟩
  | unresolved fault => cases done
  | refused functor isActive real fault => cases done
  | textRefused functor isPassive fault => cases done
  | argumentsRefused functor isPassive base fault invalid => cases done
  | commandFailed functor isPassive base arguments valid fault => cases done
  | commanded functor isPassive base arguments valid given => cases done

/-- Looking up the functor comes first. -/
theorem ItemCourse.lookedUp
    (course : ItemCourse isDry item flavor phase exchanges result) :
    ∃ answer rest, exchanges = analyzerExchange item flavor answer :: rest := by
  cases course with
  | unresolved fault => exact ⟨_, _, rfl⟩
  | skipped functor isActive dry => exact ⟨_, _, rfl⟩
  | refused functor isActive real fault => exact ⟨_, _, rfl⟩
  | delegated functor isActive real output => exact ⟨_, _, rfl⟩
  | textRefused functor isPassive fault => exact ⟨_, _, rfl⟩
  | argumentsRefused functor isPassive base fault invalid => exact ⟨_, _, rfl⟩
  | commandFailed functor isPassive base arguments valid fault => exact ⟨_, _, rfl⟩
  | commanded functor isPassive base arguments valid output => exact ⟨_, _, rfl⟩

/-- An exchange that fails is the last one, and its failure is the result. -/
theorem ItemCourse.stops
    (course : ItemCourse isDry item flavor phase exchanges result) :
    (∀ exchange ∈ exchanges.dropLast, exchange.failure? = none) ∧
      ∀ failure, exchanges.lastFailure? = some failure → result = .error failure := by
  cases course with
  | unresolved fault => simp
  | skipped functor isActive dry => simp
  | refused functor isActive real fault => simp
  | delegated functor isActive real output => simp
  | textRefused functor isPassive fault => simp
  | argumentsRefused functor isPassive base fault invalid => simp
  | commandFailed functor isPassive base arguments valid fault => simp
  | commanded functor isPassive base arguments valid output => simp

/-- A profile that cannot be named ends the analysis before the command. -/
theorem ItemCourse.lacksProfile
    (known : config.item target.build target.item = .ok item)
    (course : ItemCourse isDry item target.flavor phase exchanges result)
    {other : Item}
    {iteration : Nat}
    (lacks : LacksProfile config target phase exchanges other iteration) :
    exchanges.commands = [] ∧ result = .error (invalidProfile target other iteration) := by
  obtain ⟨otherKnown, ⟨handle, text, asked⟩, isInstrumented, iterated, notPlain⟩ := lacks
  obtain rfl := Except.ok.inj (known.symm.trans otherKnown)
  have refused :=
    fileArguments_eq_error_iff.mpr ⟨iteration, isInstrumented, iterated, notPlain, rfl⟩
  cases course with
  | unresolved fault => cases asked
  | skipped functor isActive dry => cases asked
  | refused functor isActive real fault => cases asked
  | delegated functor isActive real output => cases asked
  | textRefused functor isPassive fault => simp at asked
  | argumentsRefused functor isPassive base fault invalid =>
      obtain rfl := Except.error.inj (invalid.symm.trans refused)
      exact ⟨rfl, rfl⟩
  | commandFailed functor isPassive base arguments valid fault =>
      rw [valid] at refused
      cases refused
  | commanded functor isPassive base arguments valid output =>
      rw [valid] at refused
      cases refused

/-- An analysis of an item fails by its last exchange or for want of a profile. -/
theorem ItemCourse.failed
    (known : config.item target.build target.item = .ok item)
    (course : ItemCourse isDry item target.flavor phase exchanges result)
    {failure : Failure}
    (failed : result = .error failure) :
    exchanges.lastFailure? = some failure ∨
      ∃ item iteration,
        LacksProfile config target phase exchanges item iteration ∧
          failure = invalidProfile target item iteration := by
  cases course with
  | skipped functor isActive dry => cases failed
  | delegated functor isActive real output => cases failed
  | commanded functor isPassive base arguments valid output => cases failed
  | unresolved fault =>
      obtain rfl := Except.error.inj failed
      exact .inl rfl
  | refused functor isActive real fault =>
      obtain rfl := Except.error.inj failed
      exact .inl rfl
  | textRefused functor isPassive fault =>
      obtain rfl := Except.error.inj failed
      exact .inl rfl
  | commandFailed functor isPassive base arguments valid fault =>
      obtain rfl := Except.error.inj failed
      exact .inl rfl
  | argumentsRefused functor isPassive base fault invalid =>
      obtain rfl := Except.error.inj failed
      obtain ⟨iteration, isInstrumented, iterated, notPlain, rfl⟩ :=
        fileArguments_eq_error_iff.mp invalid
      exact .inr ⟨item, iteration, {
        known
        asked := ⟨functor.handle, base, List.mem_singleton_self _⟩
        isInstrumented
        iterated
        notPlain }, rfl⟩

end

end Analysis

namespace Configuration

section

variable
  {config : Configuration}
  {isDry : Bool}
  {target : Target}
  {phase : Phase}

/-- Without its item, an analysis ends before the first exchange. -/
theorem runsByStages_of_missing
    {fault : LookupFault}
    (missing : config.item target.build target.item = .error fault) :
    Analysis.RunsByStages config isDry target phase ([] : Transcript ι)
      (.error (.lookup fault)) where
  atMostOneCommand := Nat.zero_le 1
  handedOver := by simp
  reported_iff := by simp
  lookedUp := by simp [missing]
  passive := by simp
  active := by simp
  delegated := by simp
  unknown := by simp [missing]
  lacksProfile := by
    intro item iteration lacks
    have known := lacks.known
    rw [missing] at known
    cases known
  onlyLastFails := by simp
  lastFailure := by simp [Transcript.lastFailure?]
  failed := by
    intro failure failed
    exact .inl ⟨fault, missing, (Except.error.inj failed).symm⟩

/-- With its item, an analysis runs by the stages of the item. -/
theorem runsByStages_of_known
    {item : Item}
    {exchanges : Transcript ι}
    {result : Except Failure AnalysisOutcome}
    (known : config.item target.build target.item = .ok item)
    (course : Analysis.ItemCourse isDry item target.flavor phase exchanges result) :
    Analysis.RunsByStages config isDry target phase exchanges result where
  atMostOneCommand := course.atMostOneCommand
  handedOver _ _ handed := course.exists_handsOver known handed
  reported_iff := course.reported_iff
  lookedUp := by
    intro other otherKnown
    obtain rfl := Except.ok.inj (known.symm.trans otherKnown)
    exact course.lookedUp
  passive _ found isPassive := course.passive found isPassive
  active _ found isActive := course.active found isActive
  delegated _ done := course.delegated_active done
  unknown := by
    intro fault missing
    rw [known] at missing
    cases missing
  lacksProfile _ _ lacks := course.lacksProfile known lacks
  onlyLastFails := course.stops.1
  lastFailure := course.stops.2
  failed _ failed := .inr (course.failed known failed)

/-- Whatever course an analysis takes, it runs by its stages. -/
theorem AnalysisCourse.runsByStages
    {exchanges : Transcript ι}
    {result : Except Failure AnalysisOutcome}
    (course : config.AnalysisCourse isDry target phase exchanges result) :
    Analysis.RunsByStages config isDry target phase exchanges result := by
  cases course with
  | unknown fault missing => exact runsByStages_of_missing missing
  | found item known course => exact runsByStages_of_known known course

end

/--
An analysis runs by its stages, whatever the facilities answer and however they change: it is the
same run with and without a transcript, and this transcript shows the stages.
-/
theorem analyze_runsByStages
    (config : Configuration)
    (facilities : Facilities σ ι)
    (isDry : Bool)
    (target : Target)
    (phase : Phase)
    (session : Session σ) :
    ∃ transcript result,
      RunsAs session (config.analyze facilities isDry target phase)
          (config.analyze facilities.transcribed isDry target phase) transcript result ∧
        Analysis.RunsByStages config isDry target phase transcript result := by
  obtain ⟨transcript, result, runs, course⟩ :=
    (analyze_follows config facilities session.state isDry target phase).exists_runsAs
  exact ⟨transcript, result, runs, course.runsByStages⟩

end Configuration

end BenchmarkOrchestration
