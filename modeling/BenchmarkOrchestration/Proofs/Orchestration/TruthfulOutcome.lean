import BenchmarkOrchestration.Proofs.Orchestration.BuildCourse

namespace BenchmarkOrchestration

/-!
# Outcomes tell what was executed

The outcome of a build is compared with the transcript of the build.  The clean command is the
first command that is handed over and the build command the second, each with the text that the
functor of its role gave.  Every status of the outcome tells exactly which of these took place and
how it was answered.
-/

/-- The outcome that a build reports, whether it was completed or stopped. -/
def reportedOutcome : Except BuildFault BuildOutcome → BuildOutcome
  | .ok outcome => outcome
  | .error fault => fault.outcome

namespace Transcript

/-- The answer to the command that was handed over first. -/
def cleanAnswer?
    (transcript : Transcript ι) :
    Option (Except CommandFault CommandOutput) :=
  transcript.commands[0]?.map (·.2)

/-- The answer to the command that was handed over second. -/
def buildAnswer?
    (transcript : Transcript ι) :
    Option (Except CommandFault CommandOutput) :=
  transcript.commands[1]?.map (·.2)

/-- The answer of the functor that was invoked in active mode. -/
def activeAnswer?
    (transcript : Transcript ι) :
    Option (Except FunctorFault String) :=
  (transcript.invocations .active)[0]?.map (·.2)

/-- The build functor was found to be active. -/
def FoundActive
    (transcript : Transcript ι) :
    Prop :=
  ∃ functor ∈ transcript.functors .build, functor.isActive = true

/-- An active build functor was found and, in a dry run, left alone. -/
def LeftAlone
    (settings : BuildSettings)
    (transcript : Transcript ι) :
    Prop :=
  settings.isDry = true ∧ transcript.FoundActive ∧ transcript.invocations .active = []

/-- The functor that was found for a role gave a text when it was its turn to give one. -/
def GaveText
    (role : FunctorRole)
    (turn : Nat)
    (transcript : Transcript ι)
    (text : String) :
    Prop :=
  ∃ functor ∈ transcript.functors role,
    (transcript.invocations .passive)[turn]? = some (functor.handle, .ok text)

end Transcript

/--
The statuses of an outcome tell what was executed, as the transcript has it.  A step that a dry run
leaves to an active functor is not executed but counts as taken.
-/
structure StatusesTellTruth
    (settings : BuildSettings)
    (transcript : Transcript ι)
    (outcome : BuildOutcome) :
    Prop where
  activeUnknown : outcome.isActive = none ↔ transcript.functors .build = []
  activeKnown :
    ∀ functor ∈ transcript.functors .build, outcome.isActive = some functor.isActive
  cleanSucceeded :
    outcome.clean = .succeeded ↔ ∃ output, transcript.cleanAnswer? = some (.ok output)
  cleanFailed :
    outcome.clean = .failed ↔ ∃ fault, transcript.cleanAnswer? = some (.error fault)
  cleanDelegated : outcome.clean = .delegated ↔ transcript.FoundActive
  buildSucceeded :
    outcome.build = .succeeded ↔
      (∃ output, transcript.buildAnswer? = some (.ok output)) ∨
        (∃ output, transcript.activeAnswer? = some (.ok output)) ∨
        transcript.LeftAlone settings
  buildFailed :
    outcome.build = .failed ↔
      (∃ fault, transcript.buildAnswer? = some (.error fault)) ∨
        ∃ fault, transcript.activeAnswer? = some (.error fault)
  buildPending :
    outcome.build = .pending ↔
      transcript.buildAnswer? = none ∧
        transcript.activeAnswer? = none ∧
        ¬ transcript.LeftAlone settings

/-- At most the clean command and then the build command are run, or the active build functor. -/
structure StepsInOrder
    (settings : BuildSettings)
    (target : Target)
    (directory : String)
    (transcript : Transcript ι) :
    Prop where
  atMostTwoCommands : transcript.commands.length ≤ 2
  cleanCommand :
    ∀ command answer,
      transcript.commands[0]? = some (command, answer) →
        ∃ text, transcript.GaveText .clean 1 text ∧
          command = settings.command target directory text
  buildCommand :
    ∀ command answer,
      transcript.commands[1]? = some (command, answer) →
        ∃ text, transcript.GaveText .build 0 text ∧
          command = settings.command target directory text
  atMostOneActive : (transcript.invocations .active).length ≤ 1
  activeFunctor :
    ∀ handle answer,
      (handle, answer) ∈ transcript.invocations .active →
        settings.isDry = false ∧
          ∃ functor ∈ transcript.functors .build,
            functor.isActive = true ∧ functor.handle = handle

/-- A build is completed exactly if its outcome is a success. -/
structure ResultTellsTruth
    (target : Target)
    (result : Except BuildFault BuildOutcome) :
    Prop where
  completed :
    (∃ outcome, result = .ok outcome) ↔ (reportedOutcome result).build = .succeeded
  completedSuccess : ∀ outcome, result = .ok outcome → outcome.isSuccess = true
  stoppedUnsuccessful : ∀ fault, result = .error fault → fault.outcome.isSuccess = false
  sameTarget : (reportedOutcome result).target = target

/-- A build with a transcript and a result tells the truth. -/
structure TellsTruth
    (settings : BuildSettings)
    (target : Target)
    (directory : String)
    (transcript : Transcript ι)
    (result : Except BuildFault BuildOutcome) :
    Prop where
  statuses : StatusesTellTruth settings transcript (reportedOutcome result)
  steps : StepsInOrder settings target directory transcript
  decision : ResultTellsTruth target result

namespace Build

variable
  {facilities : Facilities σ ι}
  {state : σ}
  {settings : BuildSettings}
  {item : Item}
  {scope : DirectoryScope}
  {functor : ResolvedFunctor ι}
  {target : Target}
  {directory : String}
  {exchanges : Transcript ι}
  {progress : BuildProgress}

-- What a course was asked and answered is read off its exchanges by computation.
attribute [local simp]
  builderExchange
  cleanerExchange
  functorExchange
  commandExchange
  FunctorName.plain
  Transcript.cleanAnswer?
  Transcript.buildAnswer?
  Transcript.activeAnswer?
  Transcript.FoundActive
  Transcript.LeftAlone
  Transcript.GaveText
  BuildOutcome.start
  BuildOutcome.isSuccess
  BuildProgress.result
  reportedOutcome

/-- An active functor is found and does the build, or is left alone in a dry run. -/
theorem ActiveCourse.tellsTruth
    (isActive : functor.isActive = true)
    (course : ActiveCourse settings functor (.start target) exchanges progress) :
    TellsTruth settings target directory
      (builderExchange settings item target (.ok functor) :: exchanges) progress.result := by
  cases course with
  | skipped dry =>
      constructor <;> constructor <;> simp [isActive, dry]
  | succeeded real output =>
      constructor <;> constructor <;> simp [isActive, real]
  | failed real fault =>
      constructor <;> constructor <;> simp [isActive, real]

/-- Commands are run in order, with the texts that were given before. -/
theorem CommandsCourse.tellsTruth
    {cleaner : ResolvedFunctor ι}
    {cleanText buildText : String}
    (isPassive : functor.isActive = false)
    (course :
      CommandsCourse settings directory cleanText buildText
        { BuildOutcome.start target with isActive := some false } exchanges progress) :
    TellsTruth settings target directory
      (builderExchange settings item target (.ok functor) ::
        cleanerExchange item target (.ok cleaner) ::
        functorExchange settings target .passive functor (.ok buildText) ::
        functorExchange settings target .passive cleaner (.ok cleanText) :: exchanges)
      progress.result := by
  cases course with
  | cleanFailed fault =>
      constructor <;> constructor <;> simp [isPassive]
  | buildFailed cleaned fault =>
      constructor <;> constructor <;> simp [isPassive]
  | built cleaned output =>
      constructor <;> constructor <;> simp [isPassive]

/-- A passive build that stops before its first command executes nothing and tells so. -/
theorem tellsTruth_of_nothing_run
    {transcript : Transcript ι}
    (cause : BuildCause)
    (isPassive : functor.isActive = false)
    (found : transcript.functors .build = [functor])
    (noCommand : transcript.commands = [])
    (noActive : transcript.invocations .active = []) :
    TellsTruth settings target directory transcript
      (.error ⟨{ BuildOutcome.start target with isActive := some false }, cause⟩) := by
  constructor <;> constructor <;> simp [isPassive, found, noCommand, noActive]

/-- A passive functor runs commands only after all texts were given and the directory is there. -/
theorem PassiveCourse.tellsTruth
    (isPassive : functor.isActive = false)
    (course :
      PassiveCourse facilities state settings item scope functor (.start target) exchanges
        progress) :
    TellsTruth settings target (scope.pathOf target.item)
      (builderExchange settings item target (.ok functor) :: exchanges) progress.result := by
  cases course with
  | cleanerUnresolved fault =>
      exact tellsTruth_of_nothing_run _ isPassive (by simp) (by simp) (by simp)
  | buildTextRefused cleaner fault =>
      exact tellsTruth_of_nothing_run _ isPassive (by simp) (by simp) (by simp)
  | cleanTextRefused cleaner buildText fault =>
      exact tellsTruth_of_nothing_run _ isPassive (by simp) (by simp) (by simp)
  | directoryMissing cleaner buildText cleanText missing =>
      exact tellsTruth_of_nothing_run _ isPassive (by simp) (by simp) (by simp)
  | commanded cleaner buildText cleanText present commands =>
      exact commands.tellsTruth isPassive

/-- Without a build functor nothing is executed; with one its kind decides what is. -/
theorem TargetCourse.tellsTruth
    (course :
      TargetCourse facilities state settings item scope (.start target) exchanges progress) :
    TellsTruth settings target (scope.pathOf target.item) exchanges progress.result := by
  cases course with
  | unresolved fault =>
      constructor <;> constructor <;> simp
  | active isActive course =>
      exact course.tellsTruth isActive
  | passive isPassive course =>
      exact course.tellsTruth isPassive

/-- A build that is refused before any use of the facilities has not begun. -/
theorem tellsTruth_of_refused
    (cause : BuildCause) :
    TellsTruth settings target directory ([] : Transcript ι) (.error ⟨.start target, cause⟩) := by
  constructor <;> constructor <;> simp

end Build

namespace Configuration

/-- Whatever course a build takes, it tells the truth about it. -/
theorem BuildCourse.tellsTruth
    {config : Configuration}
    {facilities : Facilities σ ι}
    {state : σ}
    {settings : BuildSettings}
    {target : Target}
    {exchanges : Transcript ι}
    {result : Except BuildFault BuildOutcome}
    (course : config.BuildCourse facilities state settings target exchanges result) :
    TellsTruth settings target (Path.join target.build target.item) exchanges result := by
  cases course with
  | undeclared fault refused =>
      exact Build.tellsTruth_of_refused (.lookup fault)
  | directoryMissing item declared missing =>
      exact Build.tellsTruth_of_refused (.directory target.build)
  | begun item declared present course =>
      exact course.tellsTruth

/--
The outcome of a build never lies about what was executed: for every configuration, target and
settings, and for facilities that answer in any way and change in any way, it agrees with the
transcript of that build.
-/
theorem buildTarget_tellsTruth
    (config : Configuration)
    (facilities : Facilities σ ι)
    (settings : BuildSettings)
    (target : Target)
    (session : Session σ) :
    ∃ transcript result journal state,
      config.buildTarget facilities settings target session = (result, ⟨state, journal⟩) ∧
        config.buildTarget facilities.transcribed settings target (session.transcribed ι) =
          (result, ⟨(state, transcript), journal⟩) ∧
        TellsTruth settings target (Path.join target.build target.item) transcript result := by
  obtain ⟨transcript, result, journal, transcribes, runs, course⟩ :=
    buildTarget_follows config facilities session.state settings target [] session.events
  exact ⟨transcript, result, journal, _, runs, transcribes, course.tellsTruth⟩

end Configuration

end BenchmarkOrchestration
