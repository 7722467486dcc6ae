import BenchmarkOrchestration.Proofs.Orchestration.AnalysisCourse
import BenchmarkOrchestration.Proofs.Orchestration.BuildCourse
import BenchmarkOrchestration.Proofs.Orchestration.SideBySide
import BenchmarkOrchestration.Recording.Recorder
import BenchmarkOrchestration.System.FunctorScript

namespace BenchmarkOrchestration

/-!
# Dry runs

A dry run rehearses a real one: it makes the same inquiries, hands over the same commands as dry
ones and leaves active functors alone.  The two runs of a build are followed side by side up to the
first command or active invocation.  Behind it the dry run always succeeds, because dry commands
are never run.
-/

namespace BuildSettings

/-- The settings of a real build. -/
def executing
    (settings : BuildSettings) :
    BuildSettings :=
  { settings with isDry := false }

/-- The settings of a dry run. -/
def rehearsing
    (settings : BuildSettings) :
    BuildSettings :=
  { settings with isDry := true }

end BuildSettings

/--
Commands are handed to a system and measured by a clock, or they are only recorded.  The clock and
the recorder are somewhere within the state.
-/
inductive RunsCommands : (Command → σ → Except CommandFault CommandOutput × σ) → Prop
  | bySystem
      (execute : Command → σ → ProcessOutcome × σ)
      (clock : σ → Clock)
      (setClock : Clock → σ → σ) :
      RunsCommands fun command state =>
        let (answer, later, after) := command.run execute (clock state) state
        (answer, setClock later after)
  | byRecording
      (recorder : σ → Recorder)
      (setRecorder : Recorder → σ → σ) :
      RunsCommands fun command state =>
        let (answer, after) := Recorder.run command (recorder state)
        (answer, setRecorder after state)

/-- A machine hands commands to its interpreter. -/
theorem Machine.runsCommands :
    RunsCommands Machine.facilities.run :=
  .bySystem Machine.execute Machine.clock fun clock machine => { machine with clock }

/-- A recorder records commands. -/
theorem Recorder.runsCommands :
    RunsCommands Recorder.facilities.run :=
  .byRecording id fun recorder _ => recorder

/-- A dry command succeeds wherever it is handed over. -/
theorem RunsCommands.exists_output
    {run : Command → σ → Except CommandFault CommandOutput × σ}
    (shell : RunsCommands run)
    (command : Command)
    (state : σ)
    (dry : command.isDry = true) :
    ∃ output, (run command state).1 = .ok output := by
  cases shell with
  | bySystem execute clock setClock =>
      exact ⟨.ofDryRun, by simp [Command.run, dry]⟩
  | byRecording recorder setRecorder =>
      exact ⟨⟨"", .untimed⟩, by simp [Recorder.run, dry]⟩

/--
A dry build rehearses a real one: it has its success and its commands, and it stops exactly where
the real one stops without any effect.
-/
structure Rehearses
    (real : Transcript ι)
    (realResult : Except BuildFault BuildOutcome)
    (dry : Transcript ι)
    (dryResult : Except BuildFault BuildOutcome) :
    Prop where
  succeeds :
    ∀ outcome,
      realResult = .ok outcome →
        dryResult = .ok outcome ∧
          dry.commands.map Prod.fst =
            real.commands.map fun handed => { handed.1 with isDry := true }
  stops :
    ∀ fault,
      dryResult = .error fault ↔
        realResult = .error fault ∧ real.commands = [] ∧ real.invocations .active = []
  realCommands : ∀ handed ∈ real.commands, handed.1.isDry = false

/-- The progress of a dry build rehearses that of a real one. -/
def RehearsesProgress
    (real : Transcript ι)
    (realProgress : BuildProgress)
    (dry : Transcript ι)
    (dryProgress : BuildProgress) :
    Prop :=
  Rehearses real realProgress.result dry dryProgress.result

/-- An exchange without effect: a look-up, an inquiry, or a dry command. -/
def Exchange.IsHarmless : Exchange ι → Prop
  | .resolved .. => True
  | .invoked _ mode _ _ => mode = .passive
  | .commanded command _ => command.isDry = true

/-- Nothing is executed: neither a command nor an active functor. -/
def Transcript.ExecutesNothing
    (transcript : Transcript ι) :
    Prop :=
  ∀ exchange ∈ transcript, exchange.IsHarmless

/-- Two runs that stop at the same fault without any effect belong together. -/
theorem Rehearses.refused
    (fault : BuildFault) :
    Rehearses ([] : Transcript ι) (.error fault) [] (.error fault) := by
  constructor <;> simp

/-- Two runs with the same exchange in front belong together if what follows it does. -/
theorem Rehearses.cons
    {real dry : Transcript ι}
    {realResult dryResult : Except BuildFault BuildOutcome}
    {exchange : Exchange ι}
    (rehearses : Rehearses real realResult dry dryResult)
    (noCommand : exchange.command? = none)
    (noActive : exchange.invocation? .active = none) :
    Rehearses (exchange :: real) realResult (exchange :: dry) dryResult := by
  have commands :
      ∀ rest : Transcript ι,
        Transcript.commands (exchange :: rest) = Transcript.commands rest :=
    fun _ => List.filterMap_cons_none noCommand
  have activeInvocations :
      ∀ rest : Transcript ι,
        Transcript.invocations .active (exchange :: rest) = Transcript.invocations .active rest :=
    fun _ => List.filterMap_cons_none noActive
  obtain ⟨succeeds, stops, realCommands⟩ := rehearses
  constructor
  · simpa only [commands] using succeeds
  · simpa only [commands, activeInvocations] using stops
  · simpa only [commands] using realCommands

/-- Builds with the same exchange behind them belong together if what follows it does. -/
theorem RehearsesProgress.after
    {real : Facilities σ ι}
    {dry : Facilities τ ι}
    {realState : σ}
    {dryState : τ}
    {realPlain : Orchestrate σ BuildProgress}
    {realTranscribing : Orchestrate (σ × Transcript ι) BuildProgress}
    {dryPlain : Orchestrate τ BuildProgress}
    {dryTranscribing : Orchestrate (τ × Transcript ι) BuildProgress}
    {exchange : Exchange ι}
    (noCommand : exchange.command? = none)
    (noActive : exchange.invocation? .active = none)
    (follow :
      FollowBoth real dry realState dryState realPlain realTranscribing dryPlain
        dryTranscribing RehearsesProgress) :
    FollowBoth real dry realState dryState realPlain realTranscribing dryPlain dryTranscribing
      fun realExchanges realProgress dryExchanges dryProgress =>
        RehearsesProgress (exchange :: realExchanges) realProgress (exchange :: dryExchanges)
          dryProgress := by
  refine follow.mono ?_
  intro realExchanges realProgress dryExchanges dryProgress rehearses
  exact Rehearses.cons rehearses noCommand noActive

namespace Build

variable
  {real : Facilities σ ι}
  {dry : Facilities τ ι}
  {alike : σ → τ → Prop}
  {realState : σ}
  {dryState : τ}

/-- Dry commands succeed one after the other. -/
theorem runCommands_follows_rehearsing
    (shell : RunsCommands dry.run)
    (settings : BuildSettings)
    (directory cleanText buildText : String)
    (outcome : BuildOutcome) :
    Follows dry dryState
      (runCommands dry settings.rehearsing directory cleanText buildText outcome)
      (runCommands dry.transcribed settings.rehearsing directory cleanText buildText outcome)
      fun exchanges progress =>
        ∃ cleaned output,
          exchanges =
              [ commandExchange settings.rehearsing outcome.target directory cleanText
                  (.ok cleaned),
                commandExchange settings.rehearsing outcome.target directory buildText
                  (.ok output) ] ∧
            progress = ({ outcome with clean := .succeeded, build := .succeeded }, none) := by
  unfold runCommands
  refine .runCommand ?_
  intro cleanAnswer cleanAnswered
  obtain ⟨cleaned, cleanSucceeds⟩ :=
    shell.exists_output (settings.rehearsing.command outcome.target directory cleanText)
      dryState rfl
  rw [cleanSucceeds] at cleanAnswered
  subst cleanAnswered
  refine .runCommand ?_
  intro buildAnswer buildAnswered
  obtain ⟨output, buildSucceeds⟩ :=
    shell.exists_output (settings.rehearsing.command outcome.target directory buildText) _ rfl
  rw [buildSucceeds] at buildAnswered
  subst buildAnswered
  exact .pure ⟨cleaned, output, rfl, rfl⟩

/-- Whatever becomes of the real commands, the dry ones rehearse them. -/
theorem runCommands_rehearses
    (shell : RunsCommands dry.run)
    (settings : BuildSettings)
    (directory cleanText buildText : String)
    (outcome : BuildOutcome) :
    FollowBoth real dry realState dryState
      (runCommands real settings.executing directory cleanText buildText outcome)
      (runCommands real.transcribed settings.executing directory cleanText buildText outcome)
      (runCommands dry settings.rehearsing directory cleanText buildText outcome)
      (runCommands dry.transcribed settings.rehearsing directory cleanText buildText outcome)
      RehearsesProgress := by
  refine .apart (runCommands_follows real _ _ _ _ _ _)
    (runCommands_follows_rehearsing shell settings _ _ _ _) ?_
  rintro realExchanges realProgress _ _ course ⟨cleaned, output, rfl, rfl⟩
  unfold RehearsesProgress
  cases course with
  | cleanFailed fault =>
      constructor <;> simp [BuildProgress.result, commandExchange, BuildSettings.command,
        BuildSettings.executing]
  | buildFailed realCleaned fault =>
      constructor <;> simp [BuildProgress.result, commandExchange, BuildSettings.command,
        BuildSettings.executing]
  | built realCleaned realOutput =>
      constructor <;> simp [BuildProgress.result, commandExchange, BuildSettings.command,
        BuildSettings.executing, BuildSettings.rehearsing, BuildSettings.context]

/-- An active functor is left alone in the dry run, as if it had succeeded. -/
theorem runActive_rehearses
    (settings : BuildSettings)
    (functor : ResolvedFunctor ι)
    (outcome : BuildOutcome) :
    FollowBoth real dry realState dryState
      (runActive real settings.executing functor outcome)
      (runActive real.transcribed settings.executing functor outcome)
      (runActive dry settings.rehearsing functor outcome)
      (runActive dry.transcribed settings.rehearsing functor outcome)
      RehearsesProgress := by
  refine .apart (runActive_follows real _ _ _ _) (runActive_follows dry _ _ _ _) ?_
  intro realExchanges realProgress dryExchanges dryProgress realCourse dryCourse
  unfold RehearsesProgress
  cases dryCourse with
  | succeeded executed output =>
      cases executed
  | failed executed fault =>
      cases executed
  | skipped rehearsed =>
      cases realCourse with
      | skipped rehearsed =>
          cases rehearsed
      | succeeded executed output =>
          constructor <;> simp [BuildProgress.result, functorExchange]
      | failed executed fault =>
          constructor <;> simp [BuildProgress.result, functorExchange]

section

variable
  (agree : AnswerAlike real dry alike)
  (shell : RunsCommands dry.run)
  (start : alike realState dryState)

include agree shell start

/-- Passive functors are asked in both runs alike, up to the commands. -/
theorem runPassive_rehearses
    (settings : BuildSettings)
    (item : Item)
    (scope : DirectoryScope)
    (functor : ResolvedFunctor ι)
    (outcome : BuildOutcome) :
    FollowBoth real dry realState dryState
      (runPassive real settings.executing item scope functor outcome)
      (runPassive real.transcribed settings.executing item scope functor outcome)
      (runPassive dry settings.rehearsing item scope functor outcome)
      (runPassive dry.transcribed settings.rehearsing item scope functor outcome)
      RehearsesProgress := by
  unfold runPassive
  refine .resolveFunctor agree start ?_
  intro cleanerAnswer realAsked dryAsked asked
  refine RehearsesProgress.after rfl rfl ?_
  rcases cleanerAnswer with fault | cleaner
  · exact .pure (Rehearses.refused _)
  refine .askPassive agree asked ?_
  intro buildAnswer realTold dryTold told
  refine RehearsesProgress.after rfl rfl ?_
  rcases buildAnswer with fault | buildText
  · exact .pure (Rehearses.refused _)
  refine .askPassive agree told ?_
  intro cleanAnswer realReady dryReady ready
  refine RehearsesProgress.after rfl rfl ?_
  rcases cleanAnswer with fault | cleanText
  · exact .pure (Rehearses.refused _)
  refine .directories agree ready ?_
  intro isDirectory
  dsimp only
  cases scope.benchmarkDirectory isDirectory outcome.target.item with
  | error path =>
      exact .pure (Rehearses.refused _)
  | ok path =>
      exact runCommands_rehearses shell settings path cleanText buildText _

/-- Both runs find the same build functor, whose kind decides how they go on. -/
theorem runTarget_rehearses
    (settings : BuildSettings)
    (item : Item)
    (scope : DirectoryScope)
    (outcome : BuildOutcome) :
    FollowBoth real dry realState dryState
      (runTarget real settings.executing item scope outcome)
      (runTarget real.transcribed settings.executing item scope outcome)
      (runTarget dry settings.rehearsing item scope outcome)
      (runTarget dry.transcribed settings.rehearsing item scope outcome)
      RehearsesProgress := by
  unfold runTarget
  refine .resolveFunctor agree start ?_
  intro answer realFound dryFound found
  refine RehearsesProgress.after rfl rfl ?_
  rcases answer with fault | functor
  · exact .pure (Rehearses.refused _)
  dsimp only
  cases functor.isActive with
  | true =>
      exact runActive_rehearses settings functor outcome
  | false =>
      exact runPassive_rehearses agree shell found settings item scope functor outcome

end

end Build

namespace Configuration

/-- A dry build rehearses the real one. -/
theorem buildTarget_rehearses
    {real : Facilities σ ι}
    {dry : Facilities τ ι}
    {alike : σ → τ → Prop}
    {realState : σ}
    {dryState : τ}
    (agree : AnswerAlike real dry alike)
    (shell : RunsCommands dry.run)
    (start : alike realState dryState)
    (config : Configuration)
    (settings : BuildSettings)
    (target : Target) :
    FollowBoth real dry realState dryState
      (config.buildTarget real settings.executing target)
      (config.buildTarget real.transcribed settings.executing target)
      (config.buildTarget dry settings.rehearsing target)
      (config.buildTarget dry.transcribed settings.rehearsing target) Rehearses := by
  unfold buildTarget
  dsimp only
  cases config.declaredItem target with
  | error fault =>
      exact .pure (Rehearses.refused _)
  | ok item =>
      refine .directories agree start ?_
      intro isDirectory
      cases DirectoryScope.acquire isDirectory target.build with
      | error path =>
          exact .pure (Rehearses.refused _)
      | ok scope =>
          exact .map (Build.runTarget_rehearses agree shell start settings item scope _)

end Configuration

namespace Build

variable
  {facilities : Facilities σ ι}
  {state : σ}
  {settings : BuildSettings}
  {item : Item}
  {scope : DirectoryScope}
  {functor : ResolvedFunctor ι}
  {outcome : BuildOutcome}
  {exchanges : Transcript ι}
  {progress : BuildProgress}

attribute [local simp]
  Transcript.ExecutesNothing
  Exchange.IsHarmless
  builderExchange
  cleanerExchange
  functorExchange
  commandExchange

theorem ActiveCourse.executesNothing
    (dry : settings.isDry = true)
    (course : ActiveCourse settings functor outcome exchanges progress) :
    exchanges.ExecutesNothing := by
  cases course with
  | skipped _ =>
      simp
  | succeeded real output =>
      rw [dry] at real
      cases real
  | failed real fault =>
      rw [dry] at real
      cases real

theorem CommandsCourse.executesNothing
    {directory cleanText buildText : String}
    (dry : settings.isDry = true)
    (course : CommandsCourse settings directory cleanText buildText outcome exchanges progress) :
    exchanges.ExecutesNothing := by
  have isDry :
      ∀ text, (settings.command outcome.target directory text).isDry = true :=
    fun _ => dry
  cases course with
  | cleanFailed fault =>
      simp [isDry]
  | buildFailed cleaned fault =>
      simp [isDry]
  | built cleaned output =>
      simp [isDry]

theorem PassiveCourse.executesNothing
    (dry : settings.isDry = true)
    (course :
      PassiveCourse facilities state settings item scope functor outcome exchanges progress) :
    exchanges.ExecutesNothing := by
  cases course with
  | cleanerUnresolved fault =>
      simp
  | buildTextRefused cleaner fault =>
      simp
  | cleanTextRefused cleaner buildText fault =>
      simp
  | directoryMissing cleaner buildText cleanText missing =>
      simp
  | commanded cleaner buildText cleanText present commands =>
      have harmless := commands.executesNothing dry
      simpa using harmless

theorem TargetCourse.executesNothing
    (dry : settings.isDry = true)
    (course : TargetCourse facilities state settings item scope outcome exchanges progress) :
    exchanges.ExecutesNothing := by
  cases course with
  | unresolved fault =>
      simp
  | active isActive course =>
      have harmless := course.executesNothing dry
      simpa using harmless
  | passive isPassive course =>
      have harmless := course.executesNothing dry
      simpa using harmless

end Build

namespace Analysis

attribute [local simp]
  Transcript.ExecutesNothing
  Exchange.IsHarmless
  analyzerExchange
  functorExchange
  commandExchange

/-- A dry analysis executes nothing. -/
theorem ItemCourse.executesNothing
    {item : Item}
    {flavor : String}
    {phase : Phase}
    {exchanges : Transcript ι}
    {result : Except Failure AnalysisOutcome}
    (course : ItemCourse true item flavor phase exchanges result) :
    exchanges.ExecutesNothing := by
  cases course with
  | refused functor isActive real fault =>
      cases real
  | delegated functor isActive real output =>
      cases real
  | unresolved fault =>
      simp
  | skipped functor isActive dry =>
      simp
  | textRefused functor isPassive fault =>
      simp
  | argumentsRefused functor isPassive base fault invalid =>
      simp
  | commandFailed functor isPassive base arguments valid fault =>
      simp [Command.inDirectory]
  | commanded functor isPassive base arguments valid output =>
      simp [Command.inDirectory]

end Analysis

namespace Configuration

variable
  {config : Configuration}
  {target : Target}
  {exchanges : Transcript ι}

attribute [local simp] Transcript.ExecutesNothing

theorem BuildCourse.executesNothing
    {facilities : Facilities σ ι}
    {state : σ}
    {settings : BuildSettings}
    {result : Except BuildFault BuildOutcome}
    (dry : settings.isDry = true)
    (course : config.BuildCourse facilities state settings target exchanges result) :
    exchanges.ExecutesNothing := by
  cases course with
  | undeclared fault refused =>
      simp
  | directoryMissing item declared missing =>
      simp
  | begun item declared present course =>
      exact course.executesNothing dry

theorem AnalysisCourse.executesNothing
    {phase : Phase}
    {result : Except Failure AnalysisOutcome}
    (course : config.AnalysisCourse true target phase exchanges result) :
    exchanges.ExecutesNothing := by
  cases course with
  | unknown fault missing =>
      simp
  | found item known course =>
      exact course.executesNothing

/-- Every build of a configuration is rehearsed by its dry run. -/
def RehearsesBuilds
    (config : Configuration)
    (settings : BuildSettings)
    (real : Facilities σ ι)
    (realSession : Session σ)
    (dry : Facilities τ ι)
    (drySession : Session τ) :
    Prop :=
  ∀ target,
    ∃ realTranscript realResult dryTranscript dryResult,
      RunsAs realSession (config.buildTarget real settings.executing target)
          (config.buildTarget real.transcribed settings.executing target) realTranscript
          realResult ∧
        RunsAs drySession (config.buildTarget dry settings.rehearsing target)
          (config.buildTarget dry.transcribed settings.rehearsing target) dryTranscript
          dryResult ∧
        Rehearses realTranscript realResult dryTranscript dryResult

/-- No dry run of any kind executes anything. -/
structure RehearsesOnly
    (config : Configuration)
    (settings : BuildSettings)
    (facilities : Facilities σ ι)
    (session : Session σ) :
    Prop where
  build :
    ∀ target, ∃ transcript result,
      RunsAs session (config.buildTarget facilities settings.rehearsing target)
          (config.buildTarget facilities.transcribed settings.rehearsing target) transcript
          result ∧
        transcript.ExecutesNothing
  sweep :
    ∃ transcript results,
      RunsAs session (config.buildAll facilities settings.rehearsing)
          (config.buildAll facilities.transcribed settings.rehearsing) transcript results ∧
        transcript.ExecutesNothing
  analysis :
    ∀ target phase, ∃ transcript result,
      RunsAs session (config.analyze facilities true target phase)
          (config.analyze facilities.transcribed true target phase) transcript result ∧
        transcript.ExecutesNothing

/-- Dry runs execute nothing, whatever they are run on. -/
theorem rehearsesOnly
    (config : Configuration)
    (settings : BuildSettings)
    (facilities : Facilities σ ι)
    (session : Session σ) :
    config.RehearsesOnly settings facilities session := by
  have eachBuild :
      ∀ target state,
        Follows facilities state (config.buildTarget facilities settings.rehearsing target)
          (config.buildTarget facilities.transcribed settings.rehearsing target)
          fun exchanges _ => exchanges.ExecutesNothing := by
    intro target state
    refine (buildTarget_follows config facilities state settings.rehearsing target).mono ?_
    intro exchanges result course
    exact course.executesNothing rfl
  refine ⟨?_, ?_, ?_⟩
  · intro target
    exact (eachBuild target session.state).exists_runsAs
  · exact (Follows.mapM eachBuild config.targets session.state).exists_runsAs
  · intro target phase
    obtain ⟨transcript, result, runs, course⟩ :=
      (analyze_follows config facilities session.state true target phase).exists_runsAs
    exact ⟨transcript, result, runs, course.executesNothing⟩

/--
A dry run rehearses the real one if both are answered alike, and dry commands go to a system or to
a recorder.  On any facilities, no dry run executes a command or an active functor.
-/
theorem dryRuns_rehearse_builds
    {real : Facilities σ ι}
    {dry : Facilities τ ι}
    {alike : σ → τ → Prop}
    (agree : AnswerAlike real dry alike)
    (shell : RunsCommands dry.run)
    (realSession : Session σ)
    (drySession : Session τ)
    (start : alike realSession.state drySession.state)
    (config : Configuration)
    (settings : BuildSettings)
    (facilities : Facilities ρ κ)
    (session : Session ρ) :
    config.RehearsesBuilds settings real realSession dry drySession ∧
      config.RehearsesOnly settings facilities session := by
  refine ⟨?_, config.rehearsesOnly settings facilities session⟩
  intro target
  have both := buildTarget_rehearses agree shell start config settings target
  obtain ⟨realTranscript, realResult, realRuns, dryFollows⟩ := Follows.exists_runsAs both
  obtain ⟨dryTranscript, dryResult, dryRuns, rehearses⟩ := dryFollows.exists_runsAs
  exact ⟨realTranscript, realResult, dryTranscript, dryResult, realRuns, dryRuns, rehearses⟩

/-- One item with passive functors for building and for cleaning. -/
def makeConfiguration : Configuration :=
  let item := { Item.plain "k" (.uniform "/f") (.listed []) with flavors := ["x"] }
  ⟨.simplified, [⟨"/b", none, [item]⟩], [], .empty⟩

/-- A recorder on which cleaning fails. -/
def makeRecorder : Recorder where
  functors :=
    [ ((Path.key "/f", "k_x"), ⟨"k_x", false, "make", none⟩),
      ((Path.key "/f", "clean_k_x"), ⟨"clean_k_x", false, "make clean", none⟩) ]
  calls := []
  commands := []
  stdout := ""
  failing := ["clean"]
  tree := ⟨[(["b"], .directory), (["b", "k"], .directory)]⟩
  here := []

/-- The real build fails when it cleans, and its dry run succeeds. -/
theorem dryRuns_rehearse_builds_failingClean :
    AnswerAlike Recorder.facilities Recorder.facilities Eq ∧
      RunsCommands Recorder.facilities.run ∧
      makeConfiguration.RehearsesBuilds .standard Recorder.facilities (.start makeRecorder)
        Recorder.facilities (.start makeRecorder) ∧
      makeConfiguration.RehearsesOnly .standard Recorder.facilities (.start makeRecorder) ∧
      (makeConfiguration.buildTarget Recorder.facilities BuildSettings.standard.executing
          ⟨"/b", "k", "x"⟩ (.start makeRecorder)).1 =
        .error
          ⟨⟨⟨"/b", "k", "x"⟩, some false, .failed, .pending⟩,
            .command (.failed "make clean" (some 2) "mock failure")⟩ ∧
      (makeConfiguration.buildTarget Recorder.facilities BuildSettings.standard.rehearsing
          ⟨"/b", "k", "x"⟩ (.start makeRecorder)).1 =
        .ok ⟨⟨"/b", "k", "x"⟩, some false, .succeeded, .succeeded⟩ := by
  have both :=
    dryRuns_rehearse_builds (AnswerAlike.refl Recorder.facilities) Recorder.runsCommands
      (.start makeRecorder) (.start makeRecorder) rfl makeConfiguration .standard
      Recorder.facilities (.start makeRecorder)
  exact ⟨.refl _, Recorder.runsCommands, both.1, both.2, by rfl, by rfl⟩

end Configuration

end BenchmarkOrchestration
