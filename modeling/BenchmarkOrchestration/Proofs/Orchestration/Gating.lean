import BenchmarkOrchestration.Proofs.Orchestration.BuildCourse

namespace BenchmarkOrchestration

/-!
# Gates before the commands of a build

Cleaning destroys what an earlier build has made.  The clean command is therefore handed over only
when everything that the build command needs is at hand, and the build command only when cleaning
has succeeded.  The gates are read off the transcript of a build: what was exchanged before its
first command, and what that command was answered.
-/

/-- What the two commands of a build are taken from. -/
structure CommandSource (ι : Type) where
  item : Item
  builder : ResolvedFunctor ι
  cleaner : ResolvedFunctor ι
  buildText : String
  cleanText : String

namespace BuildSettings

/-- A command in the directory of the benchmark, with the options that functors see. -/
def benchmarkCommand
    (settings : BuildSettings)
    (target : Target)
    (text : String) :
    Command where
  text := text
  directory := some (Path.join target.build target.item)
  environment := (settings.context target).environment
  isDry := settings.isDry
  isTimed := false

end BuildSettings

/--
The clean command may be handed over: the target is declared, its build directory is there, both
functors were found and then gave their texts, and after that the benchmark directory was there.
-/
structure ReadyToClean
    (config : Configuration)
    (facilities : Facilities σ ι)
    (state : σ)
    (settings : BuildSettings)
    (target : Target)
    (source : CommandSource ι)
    (before : Transcript ι) :
    Prop where
  known : config.item target.build target.item = .ok source.item
  declared : target.flavor ∈ source.item.flavors
  buildDirectory : facilities.isDirectory state target.build = true
  passive : source.builder.isActive = false
  asked :
    before =
      [ Build.builderExchange settings source.item target (.ok source.builder),
        Build.cleanerExchange source.item target (.ok source.cleaner),
        Build.functorExchange settings target .passive source.builder (.ok source.buildText),
        Build.functorExchange settings target .passive source.cleaner (.ok source.cleanText) ]
  benchmarkDirectory :
    facilities.isDirectory (facilities.after state before)
        (Path.join target.build target.item) =
      true

/-- The commands of a build pass their gates, and without them nothing has been touched. -/
structure GatesEffects
    (config : Configuration)
    (facilities : Facilities σ ι)
    (state : σ)
    (settings : BuildSettings)
    (target : Target)
    (transcript : Transcript ι) :
    Prop where
  atMostTwoCommands : transcript.commands.length ≤ 2
  cleanCommand :
    ∀ command answer,
      transcript.commands[0]? = some (command, answer) →
        ∃ source,
          ReadyToClean config facilities state settings target source transcript.beforeCommands ∧
            command = settings.benchmarkCommand target source.cleanText
  buildCommand :
    ∀ command answer,
      transcript.commands[1]? = some (command, answer) →
        ∃ source cleaned,
          ReadyToClean config facilities state settings target source transcript.beforeCommands ∧
            transcript.commands[0]? =
              some (settings.benchmarkCommand target source.cleanText, .ok cleaned) ∧
            command = settings.benchmarkCommand target source.buildText
  activeBuilder :
    ∀ builder ∈ transcript.functors .build,
      builder.isActive = true → transcript.commands = [] ∧ transcript.lookups .clean = []
  undeclared :
    (∀ item, config.item target.build target.item = .ok item → target.flavor ∉ item.flavors) →
      transcript = []
  directoryMissing :
    facilities.isDirectory state target.build = false → transcript = []
  cleanerUnresolved :
    ∀ fault,
      .error fault ∈ transcript.lookups .clean →
        transcript.invocations .active = [] ∧ transcript.invocations .passive = []

namespace Build

variable
  {config : Configuration}
  {facilities : Facilities σ ι}
  {state : σ}
  {settings : BuildSettings}
  {target : Target}
  {item : Item}
  {functor : ResolvedFunctor ι}
  {exchanges : Transcript ι}
  {progress : BuildProgress}

attribute [local simp]
  builderExchange
  cleanerExchange
  functorExchange
  commandExchange
  FunctorName.plain
  BuildOutcome.start

/-- A build of a declared target that hands over no command has no gate to pass. -/
theorem gatesEffects_of_no_command
    {transcript : Transcript ι}
    (declared : config.declaredItem target = .ok item)
    (present : facilities.isDirectory state target.build = true)
    (noCommand : transcript.commands = [])
    (activeAlone :
      ∀ builder ∈ transcript.functors .build,
        builder.isActive = true → transcript.lookups .clean = [])
    (cleanerFirst :
      ∀ fault,
        .error fault ∈ transcript.lookups .clean →
          transcript.invocations .active = [] ∧ transcript.invocations .passive = []) :
    GatesEffects config facilities state settings target transcript := by
  obtain ⟨known, listed⟩ := Configuration.declaredItem_eq_ok_iff.mp declared
  refine ⟨by simp [noCommand], by simp [noCommand], by simp [noCommand], ?_, ?_, ?_, cleanerFirst⟩
  · intro builder found isActive
    exact ⟨noCommand, activeAlone builder found isActive⟩
  · intro undeclared
    exact (undeclared item known listed).elim
  · intro missing
    rw [present] at missing
    cases missing

/-- An active functor builds alone. -/
theorem ActiveCourse.gatesEffects
    (declared : config.declaredItem target = .ok item)
    (present : facilities.isDirectory state target.build = true)
    (course : ActiveCourse settings functor (.start target) exchanges progress) :
    GatesEffects config facilities state settings target
      (builderExchange settings item target (.ok functor) :: exchanges) := by
  cases course with
  | skipped dry =>
      exact gatesEffects_of_no_command declared present (by simp) (by simp) (by simp)
  | succeeded real output =>
      exact gatesEffects_of_no_command declared present (by simp) (by simp) (by simp)
  | failed real fault =>
      exact gatesEffects_of_no_command declared present (by simp) (by simp) (by simp)

/-- Behind an open gate the clean command comes first, and the build command if it succeeds. -/
theorem gatesEffects_of_ready
    {source : CommandSource ι}
    {transcript : Transcript ι}
    (ready :
      ReadyToClean config facilities state settings target source transcript.beforeCommands)
    (builders : transcript.functors .build = [source.builder])
    (cleaners : transcript.lookups .clean = [.ok source.cleaner])
    (handed :
      (∃ answer,
        transcript.commands = [(settings.benchmarkCommand target source.cleanText, answer)]) ∨
      ∃ cleaned answer,
        transcript.commands =
          [ (settings.benchmarkCommand target source.cleanText, .ok cleaned),
            (settings.benchmarkCommand target source.buildText, answer) ]) :
    GatesEffects config facilities state settings target transcript := by
  have first :
      ∀ command answer,
        transcript.commands[0]? = some (command, answer) →
          command = settings.benchmarkCommand target source.cleanText := by
    intro command answer isFirst
    rcases handed with ⟨cleaned, shape⟩ | ⟨cleaned, built, shape⟩
    · simp only [shape, List.getElem?_cons_zero, Option.some.injEq, Prod.mk.injEq] at isFirst
      exact isFirst.1.symm
    · simp only [shape, List.getElem?_cons_zero, Option.some.injEq, Prod.mk.injEq] at isFirst
      exact isFirst.1.symm
  refine ⟨?_, ?_, ?_, ?_, ?_, ?_, ?_⟩
  · rcases handed with ⟨cleaned, shape⟩ | ⟨cleaned, built, shape⟩
    · simp [shape]
    · simp [shape]
  · intro command answer isFirst
    exact ⟨source, ready, first command answer isFirst⟩
  · intro command answer isSecond
    rcases handed with ⟨cleaned, shape⟩ | ⟨cleaned, built, shape⟩
    · simp [shape] at isSecond
    · simp only [shape, List.getElem?_cons_succ, List.getElem?_cons_zero, Option.some.injEq,
        Prod.mk.injEq] at isSecond
      refine ⟨source, cleaned, ready, ?_, isSecond.1.symm⟩
      rw [shape]
      rfl
  · intro builder found isActive
    rw [builders, List.mem_singleton] at found
    rw [found, ready.passive] at isActive
    cases isActive
  · intro undeclared
    exact (undeclared source.item ready.known ready.declared).elim
  · intro missing
    rw [ready.buildDirectory] at missing
    cases missing
  · intro fault unresolved
    simp [cleaners] at unresolved

/-- A passive functor comes to its commands only through the gate. -/
theorem PassiveCourse.gatesEffects
    (declared : config.declaredItem target = .ok item)
    (present : facilities.isDirectory state target.build = true)
    (isPassive : functor.isActive = false)
    (course :
      PassiveCourse facilities
        (facilities.after state [builderExchange settings item target (.ok functor)])
        settings item ⟨target.build, .acquired⟩ functor (.start target) exchanges progress) :
    GatesEffects config facilities state settings target
      (builderExchange settings item target (.ok functor) :: exchanges) := by
  cases course with
  | cleanerUnresolved fault =>
      exact gatesEffects_of_no_command declared present (by simp) (by simp [isPassive]) (by simp)
  | buildTextRefused cleaner fault =>
      exact gatesEffects_of_no_command declared present (by simp) (by simp [isPassive]) (by simp)
  | cleanTextRefused cleaner buildText fault =>
      exact gatesEffects_of_no_command declared present (by simp) (by simp [isPassive]) (by simp)
  | directoryMissing cleaner buildText cleanText missing =>
      exact gatesEffects_of_no_command declared present (by simp) (by simp [isPassive]) (by simp)
  | commanded cleaner buildText cleanText benchmarkPresent commands =>
      obtain ⟨known, listed⟩ := Configuration.declaredItem_eq_ok_iff.mp declared
      let source : CommandSource ι := ⟨item, functor, cleaner, buildText, cleanText⟩
      have ready :
          ReadyToClean config facilities state settings target source
            [ builderExchange settings item target (.ok functor),
              cleanerExchange item target (.ok cleaner),
              functorExchange settings target .passive functor (.ok buildText),
              functorExchange settings target .passive cleaner (.ok cleanText) ] :=
        ⟨known, listed, present, isPassive, rfl, benchmarkPresent⟩
      cases commands with
      | cleanFailed fault =>
          exact gatesEffects_of_ready ready rfl rfl (.inl ⟨.error fault, rfl⟩)
      | buildFailed cleaned fault =>
          exact gatesEffects_of_ready ready rfl rfl (.inr ⟨cleaned, .error fault, rfl⟩)
      | built cleaned output =>
          exact gatesEffects_of_ready ready rfl rfl (.inr ⟨cleaned, .ok output, rfl⟩)

/-- A declared target in its build directory touches nothing without its build functor. -/
theorem TargetCourse.gatesEffects
    (declared : config.declaredItem target = .ok item)
    (present : facilities.isDirectory state target.build = true)
    (course :
      TargetCourse facilities state settings item ⟨target.build, .acquired⟩ (.start target)
        exchanges progress) :
    GatesEffects config facilities state settings target exchanges := by
  cases course with
  | unresolved fault =>
      exact gatesEffects_of_no_command declared present (by simp) (by simp) (by simp)
  | active isActive course =>
      exact course.gatesEffects declared present
  | passive isPassive course =>
      exact course.gatesEffects declared present isPassive

end Build

namespace Configuration

/-- Nothing at all passes every gate. -/
theorem gatesEffects_nil
    (config : Configuration)
    (facilities : Facilities σ ι)
    (state : σ)
    (settings : BuildSettings)
    (target : Target) :
    GatesEffects config facilities state settings target [] := by
  constructor <;> simp

/-- Whatever course a build takes, its commands have passed their gates. -/
theorem BuildCourse.gatesEffects
    {config : Configuration}
    {facilities : Facilities σ ι}
    {state : σ}
    {settings : BuildSettings}
    {target : Target}
    {exchanges : Transcript ι}
    {result : Except BuildFault BuildOutcome}
    (course : config.BuildCourse facilities state settings target exchanges result) :
    GatesEffects config facilities state settings target exchanges := by
  cases course with
  | undeclared fault refused =>
      exact gatesEffects_nil config facilities state settings target
  | directoryMissing item declared missing =>
      exact gatesEffects_nil config facilities state settings target
  | begun item declared present course =>
      exact course.gatesEffects declared present

/--
A build hands over at most its clean command and then its build command, each only through its
gate, whatever the facilities answer and however they change.
-/
theorem buildTarget_gatesEffects
    (config : Configuration)
    (facilities : Facilities σ ι)
    (settings : BuildSettings)
    (target : Target)
    (session : Session σ) :
    ∃ transcript result journal state,
      config.buildTarget facilities settings target session = (result, ⟨state, journal⟩) ∧
        config.buildTarget facilities.transcribed settings target (session.transcribed ι) =
          (result, ⟨(state, transcript), journal⟩) ∧
        GatesEffects config facilities session.state settings target transcript := by
  obtain ⟨transcript, result, journal, transcribes, runs, course⟩ :=
    buildTarget_follows config facilities session.state settings target [] session.events
  exact ⟨transcript, result, journal, _, runs, transcribes, course.gatesEffects⟩

end Configuration

end BenchmarkOrchestration
