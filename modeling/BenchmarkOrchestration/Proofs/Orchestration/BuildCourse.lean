import BenchmarkOrchestration.Orchestration.Build
import BenchmarkOrchestration.Proofs.Orchestration.Transcript

namespace BenchmarkOrchestration

/-!
# Courses of builds

A build takes one of a few courses, which differ in the use of the facilities that ends it.  A
course relates the exchanges of the build to its result, and every build takes one of its courses.
Each function of the build has courses of its own, from which those of its callers are made.
-/

namespace Build

/-- Looking up the build functor of an item. -/
def builderExchange
    (settings : BuildSettings)
    (item : Item)
    (target : Target)
    (answer : Except FunctorFault (ResolvedFunctor ι)) :
    Exchange ι :=
  .resolved item.functors.build
    { FunctorName.plain .build item.benchmark target.flavor with
      uninstrumented := settings.isUninstrumented }
    answer

/-- Looking up the clean functor of an item. -/
def cleanerExchange
    (item : Item)
    (target : Target)
    (answer : Except FunctorFault (ResolvedFunctor ι)) :
    Exchange ι :=
  .resolved item.functors.clean (.plain .clean item.benchmark target.flavor) answer

/-- Letting a functor do its step, or asking it for its command. -/
def functorExchange
    (settings : BuildSettings)
    (target : Target)
    (mode : InvocationMode)
    (functor : ResolvedFunctor ι)
    (answer : Except FunctorFault String) :
    Exchange ι :=
  .invoked functor.handle mode (settings.context target) answer

/-- Handing over a command in a directory. -/
def commandExchange
    (settings : BuildSettings)
    (target : Target)
    (directory text : String)
    (answer : Except CommandFault CommandOutput) :
    Exchange ι :=
  .commanded (settings.command target directory text) answer

/-- The courses of a build by an active functor. -/
inductive ActiveCourse
    (settings : BuildSettings)
    (functor : ResolvedFunctor ι)
    (outcome : BuildOutcome) :
    Transcript ι → BuildProgress → Prop
  | skipped
      (dry : settings.isDry = true) :
      ActiveCourse settings functor outcome []
        ({ outcome with isActive := some true, clean := .delegated, build := .succeeded }, none)
  | succeeded
      (real : settings.isDry = false)
      (output : String) :
      ActiveCourse settings functor outcome
        [functorExchange settings outcome.target .active functor (.ok output)]
        ({ outcome with isActive := some true, clean := .delegated, build := .succeeded }, none)
  | failed
      (real : settings.isDry = false)
      (fault : FunctorFault) :
      ActiveCourse settings functor outcome
        [functorExchange settings outcome.target .active functor (.error fault)]
        ({ outcome with isActive := some true, clean := .delegated, build := .failed },
          some (.functor fault))

/-- The courses of the two commands. -/
inductive CommandsCourse
    (settings : BuildSettings)
    (directory cleanText buildText : String)
    (outcome : BuildOutcome) :
    Transcript ι → BuildProgress → Prop
  | cleanFailed
      (fault : CommandFault) :
      CommandsCourse settings directory cleanText buildText outcome
        [commandExchange settings outcome.target directory cleanText (.error fault)]
        ({ outcome with clean := .failed }, some (.command fault))
  | buildFailed
      (cleaned : CommandOutput)
      (fault : CommandFault) :
      CommandsCourse settings directory cleanText buildText outcome
        [ commandExchange settings outcome.target directory cleanText (.ok cleaned),
          commandExchange settings outcome.target directory buildText (.error fault) ]
        ({ outcome with clean := .succeeded, build := .failed }, some (.command fault))
  | built
      (cleaned output : CommandOutput) :
      CommandsCourse settings directory cleanText buildText outcome
        [ commandExchange settings outcome.target directory cleanText (.ok cleaned),
          commandExchange settings outcome.target directory buildText (.ok output) ]
        ({ outcome with clean := .succeeded, build := .succeeded }, none)

/-- The courses of a build by a passive functor and the clean functor, from a state on. -/
inductive PassiveCourse
    (facilities : Facilities σ ι)
    (state : σ)
    (settings : BuildSettings)
    (item : Item)
    (scope : DirectoryScope)
    (functor : ResolvedFunctor ι)
    (outcome : BuildOutcome) :
    Transcript ι → BuildProgress → Prop
  | cleanerUnresolved
      (fault : FunctorFault) :
      PassiveCourse facilities state settings item scope functor outcome
        [cleanerExchange item outcome.target (.error fault)]
        ({ outcome with isActive := some false }, some (.functor fault))
  | buildTextRefused
      (cleaner : ResolvedFunctor ι)
      (fault : FunctorFault) :
      PassiveCourse facilities state settings item scope functor outcome
        [ cleanerExchange item outcome.target (.ok cleaner),
          functorExchange settings outcome.target .passive functor (.error fault) ]
        ({ outcome with isActive := some false }, some (.functor fault))
  | cleanTextRefused
      (cleaner : ResolvedFunctor ι)
      (buildText : String)
      (fault : FunctorFault) :
      PassiveCourse facilities state settings item scope functor outcome
        [ cleanerExchange item outcome.target (.ok cleaner),
          functorExchange settings outcome.target .passive functor (.ok buildText),
          functorExchange settings outcome.target .passive cleaner (.error fault) ]
        ({ outcome with isActive := some false }, some (.functor fault))
  | directoryMissing
      (cleaner : ResolvedFunctor ι)
      (buildText cleanText : String)
      (missing :
        facilities.isDirectory
            (facilities.after state
              [ cleanerExchange item outcome.target (.ok cleaner),
                functorExchange settings outcome.target .passive functor (.ok buildText),
                functorExchange settings outcome.target .passive cleaner (.ok cleanText) ])
            (scope.pathOf outcome.target.item) =
          false) :
      PassiveCourse facilities state settings item scope functor outcome
        [ cleanerExchange item outcome.target (.ok cleaner),
          functorExchange settings outcome.target .passive functor (.ok buildText),
          functorExchange settings outcome.target .passive cleaner (.ok cleanText) ]
        ({ outcome with isActive := some false },
          some (.directory (scope.pathOf outcome.target.item)))
  | commanded
      (cleaner : ResolvedFunctor ι)
      (buildText cleanText : String)
      (present :
        facilities.isDirectory
            (facilities.after state
              [ cleanerExchange item outcome.target (.ok cleaner),
                functorExchange settings outcome.target .passive functor (.ok buildText),
                functorExchange settings outcome.target .passive cleaner (.ok cleanText) ])
            (scope.pathOf outcome.target.item) =
          true)
      {exchanges : Transcript ι}
      {progress : BuildProgress}
      (commands :
        CommandsCourse settings (scope.pathOf outcome.target.item) cleanText buildText
          { outcome with isActive := some false } exchanges progress) :
      PassiveCourse facilities state settings item scope functor outcome
        (cleanerExchange item outcome.target (.ok cleaner) ::
          functorExchange settings outcome.target .passive functor (.ok buildText) ::
          functorExchange settings outcome.target .passive cleaner (.ok cleanText) :: exchanges)
        progress

/-- The courses of a build of a declared target in its acquired directory. -/
inductive TargetCourse
    (facilities : Facilities σ ι)
    (state : σ)
    (settings : BuildSettings)
    (item : Item)
    (scope : DirectoryScope)
    (outcome : BuildOutcome) :
    Transcript ι → BuildProgress → Prop
  | unresolved
      (fault : FunctorFault) :
      TargetCourse facilities state settings item scope outcome
        [builderExchange settings item outcome.target (.error fault)]
        (outcome, some (.functor fault))
  | active
      {functor : ResolvedFunctor ι}
      (isActive : functor.isActive = true)
      {exchanges : Transcript ι}
      {progress : BuildProgress}
      (course : ActiveCourse settings functor outcome exchanges progress) :
      TargetCourse facilities state settings item scope outcome
        (builderExchange settings item outcome.target (.ok functor) :: exchanges) progress
  | passive
      {functor : ResolvedFunctor ι}
      (isPassive : functor.isActive = false)
      {exchanges : Transcript ι}
      {progress : BuildProgress}
      (course :
        PassiveCourse facilities
          (facilities.after state [builderExchange settings item outcome.target (.ok functor)])
          settings item scope functor outcome exchanges progress) :
      TargetCourse facilities state settings item scope outcome
        (builderExchange settings item outcome.target (.ok functor) :: exchanges) progress

/-- An active functor takes one of its courses. -/
theorem runActive_follows
    (facilities : Facilities σ ι)
    (state : σ)
    (settings : BuildSettings)
    (functor : ResolvedFunctor ι)
    (outcome : BuildOutcome) :
    Follows facilities state (runActive facilities settings functor outcome)
      (runActive facilities.transcribed settings functor outcome)
      (ActiveCourse settings functor outcome) := by
  unfold runActive
  cases dry : settings.isDry with
  | true =>
      exact .pure (.skipped dry)
  | false =>
      refine .invokeFunctor ?_
      rintro (fault | output) answered
      · exact .pure (.failed dry fault)
      · exact .pure (.succeeded dry output)

/-- The two commands take one of their courses. -/
theorem runCommands_follows
    (facilities : Facilities σ ι)
    (state : σ)
    (settings : BuildSettings)
    (directory cleanText buildText : String)
    (outcome : BuildOutcome) :
    Follows facilities state
      (runCommands facilities settings directory cleanText buildText outcome)
      (runCommands facilities.transcribed settings directory cleanText buildText outcome)
      (CommandsCourse settings directory cleanText buildText outcome) := by
  unfold runCommands
  refine .runCommand ?_
  rintro (fault | cleaned) cleanAnswered
  · exact .pure (.cleanFailed fault)
  · refine .runCommand ?_
    rintro (fault | output) buildAnswered
    · exact .pure (.buildFailed cleaned fault)
    · exact .pure (.built cleaned output)

/-- A passive functor and the clean functor take one of their courses. -/
theorem runPassive_follows
    (facilities : Facilities σ ι)
    (state : σ)
    (settings : BuildSettings)
    (item : Item)
    (scope : DirectoryScope)
    (functor : ResolvedFunctor ι)
    (outcome : BuildOutcome) :
    Follows facilities state (runPassive facilities settings item scope functor outcome)
      (runPassive facilities.transcribed settings item scope functor outcome)
      (PassiveCourse facilities state settings item scope functor outcome) := by
  unfold runPassive
  refine .resolveFunctor ?_
  rintro (fault | cleaner) cleanerAnswered
  · exact .pure (.cleanerUnresolved fault)
  refine .invokeFunctor ?_
  rintro (fault | buildText) buildTextAnswered
  · exact .pure (.buildTextRefused cleaner fault)
  refine .invokeFunctor ?_
  rintro (fault | cleanText) cleanTextAnswered
  · exact .pure (.cleanTextRefused cleaner buildText fault)
  refine .directories ?_
  simp only [DirectoryScope.benchmarkDirectory]
  split
  · rename_i path found
    split at found
    · cases found
    · rename_i missing
      cases found
      exact .pure (.directoryMissing cleaner buildText cleanText (Bool.eq_false_iff.mpr missing))
  · rename_i path found
    split at found
    · rename_i present
      cases found
      refine (runCommands_follows facilities _ settings _ cleanText buildText _).mono ?_
      intro exchanges progress commands
      exact .commanded cleaner buildText cleanText present commands
    · cases found

/-- A declared target in its acquired directory takes one of its courses. -/
theorem runTarget_follows
    (facilities : Facilities σ ι)
    (state : σ)
    (settings : BuildSettings)
    (item : Item)
    (scope : DirectoryScope)
    (outcome : BuildOutcome) :
    Follows facilities state (runTarget facilities settings item scope outcome)
      (runTarget facilities.transcribed settings item scope outcome)
      (TargetCourse facilities state settings item scope outcome) := by
  unfold runTarget
  refine .resolveFunctor ?_
  rintro (fault | functor) answered
  · exact .pure (.unresolved fault)
  dsimp only
  cases isActive : functor.isActive with
  | true =>
      refine (runActive_follows facilities _ settings functor outcome).mono ?_
      intro exchanges progress course
      exact .active isActive course
  | false =>
      refine (runPassive_follows facilities _ settings item scope functor outcome).mono ?_
      intro exchanges progress course
      exact .passive isActive course

/-- What a build exchanges: look-ups, and otherwise what has the context of its target. -/
inductive BuildExchange
    (settings : BuildSettings)
    (target : Target) :
    Exchange ι → Prop
  | lookup
      (directory : String)
      (name : FunctorName)
      (answer : Except FunctorFault (ResolvedFunctor ι)) :
      BuildExchange settings target (.resolved directory name answer)
  | invocation
      (mode : InvocationMode)
      (functor : ResolvedFunctor ι)
      (answer : Except FunctorFault String) :
      BuildExchange settings target (functorExchange settings target mode functor answer)
  | command
      (directory text : String)
      (answer : Except CommandFault CommandOutput) :
      BuildExchange settings target (commandExchange settings target directory text answer)

section Exchanges

variable
  {facilities : Facilities σ ι}
  {state : σ}
  {settings : BuildSettings}
  {item : Item}
  {scope : DirectoryScope}
  {functor : ResolvedFunctor ι}
  {outcome : BuildOutcome}
  {exchanges : Transcript ι}
  {progress : BuildProgress}

attribute [local simp]
  builderExchange
  cleanerExchange
  BuildExchange.lookup
  BuildExchange.invocation
  BuildExchange.command

theorem ActiveCourse.buildExchange
    (course : ActiveCourse settings functor outcome exchanges progress) :
    ∀ exchange ∈ exchanges, BuildExchange settings outcome.target exchange := by
  cases course <;> simp

theorem CommandsCourse.buildExchange
    {directory cleanText buildText : String}
    (course : CommandsCourse settings directory cleanText buildText outcome exchanges progress) :
    ∀ exchange ∈ exchanges, BuildExchange settings outcome.target exchange := by
  cases course <;> simp

theorem PassiveCourse.buildExchange
    (course :
      PassiveCourse facilities state settings item scope functor outcome exchanges progress) :
    ∀ exchange ∈ exchanges, BuildExchange settings outcome.target exchange := by
  cases course with
  | cleanerUnresolved fault => simp
  | buildTextRefused cleaner fault => simp
  | cleanTextRefused cleaner buildText fault => simp
  | directoryMissing cleaner buildText cleanText missing => simp
  | commanded cleaner buildText cleanText present commands =>
      have behind := commands.buildExchange
      simpa using behind

theorem TargetCourse.buildExchange
    (course : TargetCourse facilities state settings item scope outcome exchanges progress) :
    ∀ exchange ∈ exchanges, BuildExchange settings outcome.target exchange := by
  cases course with
  | unresolved fault => simp
  | active isActive course =>
      have behind := course.buildExchange
      simpa using behind
  | passive isPassive course =>
      have behind := course.buildExchange
      simpa using behind

end Exchanges

end Build

namespace Configuration

/-- A target is declared by the item of its name if this item lists its flavor. -/
theorem declaredItem_eq_ok_iff
    {config : Configuration}
    {target : Target}
    {item : Item} :
    config.declaredItem target = .ok item ↔
      config.item target.build target.item = .ok item ∧ target.flavor ∈ item.flavors := by
  rw [declaredItem]
  cases config.item target.build target.item with
  | error fault =>
      simp [bind, Except.bind]
  | ok found =>
      simp only [bind, Except.bind, Except.ok.injEq]
      by_cases declares : target.flavor ∈ found.flavors
      · have declared : found.declaresFlavor target.flavor = true := by
          simpa [Item.declaresFlavor] using declares
        rw [if_pos declared]
        constructor
        · rintro ⟨rfl⟩
          exact ⟨rfl, declares⟩
        · rintro ⟨rfl, _⟩
          rfl
      · have undeclared : ¬ found.declaresFlavor target.flavor = true := by
          simpa [Item.declaresFlavor] using declares
        rw [if_neg undeclared]
        constructor
        · rintro ⟨⟩
        · rintro ⟨rfl, listed⟩
          exact (declares listed).elim

/-- The courses of a build of a target, which may end before any use of the facilities. -/
inductive BuildCourse
    (config : Configuration)
    (facilities : Facilities σ ι)
    (state : σ)
    (settings : BuildSettings)
    (target : Target) :
    Transcript ι → Except BuildFault BuildOutcome → Prop
  | undeclared
      (fault : LookupFault)
      (refused : config.declaredItem target = .error fault) :
      BuildCourse config facilities state settings target []
        (.error ⟨.start target, .lookup fault⟩)
  | directoryMissing
      (item : Item)
      (declared : config.declaredItem target = .ok item)
      (missing : facilities.isDirectory state target.build = false) :
      BuildCourse config facilities state settings target []
        (.error ⟨.start target, .directory target.build⟩)
  | begun
      (item : Item)
      (declared : config.declaredItem target = .ok item)
      (present : facilities.isDirectory state target.build = true)
      {exchanges : Transcript ι}
      {progress : BuildProgress}
      (course :
        Build.TargetCourse facilities state settings item ⟨target.build, .acquired⟩
          (.start target) exchanges progress) :
      BuildCourse config facilities state settings target exchanges progress.result

/-- Every build of a target takes one of its courses. -/
theorem buildTarget_follows
    (config : Configuration)
    (facilities : Facilities σ ι)
    (state : σ)
    (settings : BuildSettings)
    (target : Target) :
    Follows facilities state (config.buildTarget facilities settings target)
      (config.buildTarget facilities.transcribed settings target)
      (BuildCourse config facilities state settings target) := by
  unfold buildTarget
  dsimp only
  cases declared : config.declaredItem target with
  | error fault =>
      exact .pure (.undeclared fault declared)
  | ok item =>
      refine .directories ?_
      simp only [DirectoryScope.acquire]
      cases present : facilities.isDirectory state target.build with
      | false =>
          exact .pure (.directoryMissing item declared present)
      | true =>
          refine (Build.runTarget_follows facilities state settings item _ _).bind ?_
          intro exchanges progress course
          refine .pure ?_
          rw [List.append_nil]
          exact .begun item declared present course

/-- A build exchanges nothing but look-ups and what has the context of its target. -/
theorem BuildCourse.buildExchange
    {config : Configuration}
    {facilities : Facilities σ ι}
    {state : σ}
    {settings : BuildSettings}
    {target : Target}
    {exchanges : Transcript ι}
    {result : Except BuildFault BuildOutcome}
    (course : config.BuildCourse facilities state settings target exchanges result) :
    ∀ exchange ∈ exchanges, Build.BuildExchange settings target exchange := by
  cases course with
  | undeclared fault refused => exact List.forall_mem_nil _
  | directoryMissing item declared missing => exact List.forall_mem_nil _
  | begun item declared present course => exact course.buildExchange

end Configuration

end BenchmarkOrchestration
