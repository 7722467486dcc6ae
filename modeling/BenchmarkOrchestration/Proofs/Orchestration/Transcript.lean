import BenchmarkOrchestration.Orchestration.Facilities

namespace BenchmarkOrchestration

/-!
# Transcripts

The journal of a session tells how the facilities are used, but not what they answer.  Facilities
can be transcribed: they behave as before and also write down every use with its answer.  A program
is executed symbolically on plain and on transcribed facilities at once, so that both runs are seen
to agree while the exchanges of the run are collected.
-/

/-- One use of the facilities with the answer to it. -/
inductive Exchange (ι : Type) where
  | resolved
      (directory : String)
      (name : FunctorName)
      (answer : Except FunctorFault (ResolvedFunctor ι))
  | invoked
      (handle : ι)
      (mode : InvocationMode)
      (context : FunctorContext)
      (answer : Except FunctorFault String)
  | commanded
      (command : Command)
      (answer : Except CommandFault CommandOutput)

/-- The exchanges of a run in order. -/
abbrev Transcript (ι : Type) := List (Exchange ι)

namespace Exchange

/-- The command that is handed over, with the answer. -/
def command? : Exchange ι → Option (Command × Except CommandFault CommandOutput)
  | .commanded command answer => some (command, answer)
  | .resolved .. => none
  | .invoked .. => none

/-- The functor that is found under a name of a role. -/
def functor?
    (role : FunctorRole) :
    Exchange ι → Option (ResolvedFunctor ι)
  | .resolved _ name (.ok functor) => if name.role = role then some functor else none
  | .resolved _ _ (.error _) => none
  | .invoked .. => none
  | .commanded .. => none

/-- The answer to a look-up of a functor for a role. -/
def lookup?
    (role : FunctorRole) :
    Exchange ι → Option (Except FunctorFault (ResolvedFunctor ι))
  | .resolved _ name answer => if name.role = role then some answer else none
  | .invoked .. => none
  | .commanded .. => none

/-- The handle that is invoked in a mode, with the answer. -/
def invocation?
    (mode : InvocationMode) :
    Exchange ι → Option (ι × Except FunctorFault String)
  | .invoked handle used _ answer => if used = mode then some (handle, answer) else none
  | .resolved .. => none
  | .commanded .. => none

end Exchange

namespace Transcript

/-- The commands that were handed over, with their answers. -/
def commands
    (transcript : Transcript ι) :
    List (Command × Except CommandFault CommandOutput) :=
  transcript.filterMap Exchange.command?

/-- The functors that were found for a role. -/
def functors
    (role : FunctorRole)
    (transcript : Transcript ι) :
    List (ResolvedFunctor ι) :=
  transcript.filterMap (Exchange.functor? role)

/-- The answers to all look-ups for a role, whether a functor was found or not. -/
def lookups
    (role : FunctorRole)
    (transcript : Transcript ι) :
    List (Except FunctorFault (ResolvedFunctor ι)) :=
  transcript.filterMap (Exchange.lookup? role)

/-- What was exchanged before the first command was handed over. -/
def beforeCommands
    (transcript : Transcript ι) :
    Transcript ι :=
  transcript.takeWhile fun exchange => exchange.command?.isNone

/-- The invocations in a mode, with their answers. -/
def invocations
    (mode : InvocationMode)
    (transcript : Transcript ι) :
    List (ι × Except FunctorFault String) :=
  transcript.filterMap (Exchange.invocation? mode)

section

variable
  (directory : String)
  (name : FunctorName)
  (rest : Transcript ι)

@[simp] theorem commands_nil :
    commands ([] : Transcript ι) = [] :=
  rfl

@[simp] theorem commands_resolved
    (answer : Except FunctorFault (ResolvedFunctor ι)) :
    commands (.resolved directory name answer :: rest) = commands rest :=
  rfl

@[simp] theorem commands_invoked
    (handle : ι)
    (mode : InvocationMode)
    (context : FunctorContext)
    (answer : Except FunctorFault String) :
    commands (.invoked handle mode context answer :: rest) = commands rest :=
  rfl

@[simp] theorem commands_commanded
    (command : Command)
    (answer : Except CommandFault CommandOutput) :
    commands (.commanded command answer :: rest) = (command, answer) :: commands rest :=
  rfl

@[simp] theorem functors_nil
    (role : FunctorRole) :
    functors role ([] : Transcript ι) = [] :=
  rfl

@[simp] theorem functors_resolved_ok
    (role : FunctorRole)
    (functor : ResolvedFunctor ι) :
    functors role (.resolved directory name (.ok functor) :: rest) =
      if name.role = role then functor :: functors role rest else functors role rest := by
  simp only [functors, List.filterMap_cons, Exchange.functor?]
  split <;> simp_all

@[simp] theorem functors_resolved_error
    (role : FunctorRole)
    (fault : FunctorFault) :
    functors role (.resolved directory name (.error fault) :: rest) = functors role rest :=
  rfl

@[simp] theorem functors_invoked
    (role : FunctorRole)
    (handle : ι)
    (mode : InvocationMode)
    (context : FunctorContext)
    (answer : Except FunctorFault String) :
    functors role (.invoked handle mode context answer :: rest) = functors role rest :=
  rfl

@[simp] theorem functors_commanded
    (role : FunctorRole)
    (command : Command)
    (answer : Except CommandFault CommandOutput) :
    functors role (.commanded command answer :: rest) = functors role rest :=
  rfl

@[simp] theorem lookups_nil
    (role : FunctorRole) :
    lookups role ([] : Transcript ι) = [] :=
  rfl

@[simp] theorem lookups_resolved
    (role : FunctorRole)
    (answer : Except FunctorFault (ResolvedFunctor ι)) :
    lookups role (.resolved directory name answer :: rest) =
      if name.role = role then answer :: lookups role rest else lookups role rest := by
  simp only [lookups, List.filterMap_cons, Exchange.lookup?]
  split <;> simp_all

@[simp] theorem lookups_invoked
    (role : FunctorRole)
    (handle : ι)
    (mode : InvocationMode)
    (context : FunctorContext)
    (answer : Except FunctorFault String) :
    lookups role (.invoked handle mode context answer :: rest) = lookups role rest :=
  rfl

@[simp] theorem lookups_commanded
    (role : FunctorRole)
    (command : Command)
    (answer : Except CommandFault CommandOutput) :
    lookups role (.commanded command answer :: rest) = lookups role rest :=
  rfl

@[simp] theorem beforeCommands_resolved
    (answer : Except FunctorFault (ResolvedFunctor ι)) :
    beforeCommands (.resolved directory name answer :: rest) =
      .resolved directory name answer :: beforeCommands rest :=
  rfl

@[simp] theorem beforeCommands_invoked
    (handle : ι)
    (mode : InvocationMode)
    (context : FunctorContext)
    (answer : Except FunctorFault String) :
    beforeCommands (.invoked handle mode context answer :: rest) =
      .invoked handle mode context answer :: beforeCommands rest :=
  rfl

@[simp] theorem beforeCommands_commanded
    (command : Command)
    (answer : Except CommandFault CommandOutput) :
    beforeCommands (.commanded command answer :: rest) = [] :=
  rfl

@[simp] theorem invocations_nil
    (mode : InvocationMode) :
    invocations mode ([] : Transcript ι) = [] :=
  rfl

@[simp] theorem invocations_resolved
    (mode : InvocationMode)
    (answer : Except FunctorFault (ResolvedFunctor ι)) :
    invocations mode (.resolved directory name answer :: rest) = invocations mode rest :=
  rfl

@[simp] theorem invocations_invoked
    (mode : InvocationMode)
    (handle : ι)
    (used : InvocationMode)
    (context : FunctorContext)
    (answer : Except FunctorFault String) :
    invocations mode (.invoked handle used context answer :: rest) =
      if used = mode then (handle, answer) :: invocations mode rest
      else invocations mode rest := by
  simp only [invocations, List.filterMap_cons, Exchange.invocation?]
  split <;> simp_all

@[simp] theorem invocations_commanded
    (mode : InvocationMode)
    (command : Command)
    (answer : Except CommandFault CommandOutput) :
    invocations mode (.commanded command answer :: rest) = invocations mode rest :=
  rfl

end

end Transcript

namespace Facilities

/-- The same facilities, which write down every use with its answer. -/
def transcribed
    (facilities : Facilities σ ι) :
    Facilities (σ × Transcript ι) ι where
  resolve directory name state :=
    let (answer, after) := facilities.resolve directory name state.1
    (answer, after, state.2 ++ [.resolved directory name answer])
  invoke handle mode context state :=
    let (answer, after) := facilities.invoke handle mode context state.1
    (answer, after, state.2 ++ [.invoked handle mode context answer])
  run command state :=
    let (answer, after) := facilities.run command state.1
    (answer, after, state.2 ++ [.commanded command answer])
  isDirectory state path := facilities.isDirectory state.1 path

/-- The state in which one use leaves the facilities. -/
def afterExchange
    (facilities : Facilities σ ι)
    (state : σ) :
    Exchange ι → σ
  | .resolved directory name _ => (facilities.resolve directory name state).2
  | .invoked handle mode context _ => (facilities.invoke handle mode context state).2
  | .commanded command _ => (facilities.run command state).2

/-- The state in which several uses leave the facilities. -/
def after
    (facilities : Facilities σ ι)
    (state : σ)
    (exchanges : Transcript ι) :
    σ :=
  exchanges.foldl facilities.afterExchange state

/-- Uses come one after the other. -/
theorem after_append
    (facilities : Facilities σ ι)
    (state : σ)
    (first second : Transcript ι) :
    facilities.after state (first ++ second) =
      facilities.after (facilities.after state first) second := by
  simp [after]

end Facilities

/-- A session whose transcript is still empty. -/
def Session.transcribed
    (ι : Type)
    (session : Session σ) :
    Session (σ × Transcript ι) :=
  ⟨(session.state, []), session.events⟩

/-- What a program does in a session: a result, and the transcript of its exchanges. -/
def RunsAs
    (session : Session σ)
    (plain : Orchestrate σ α)
    (transcribing : Orchestrate (σ × Transcript ι) α)
    (transcript : Transcript ι)
    (result : α) :
    Prop :=
  ∃ journal state,
    plain session = (result, ⟨state, journal⟩) ∧
      transcribing (session.transcribed ι) = (result, ⟨(state, transcript), journal⟩)

/--
From a state of the facilities, a program on plain facilities and the same on transcribed ones give
the same result, and the exchanges of the run take the course that is allowed with the result.
-/
def Follows
    (facilities : Facilities σ ι)
    (state : σ)
    (plain : Orchestrate σ α)
    (transcribing : Orchestrate (σ × Transcript ι) α)
    (course : Transcript ι → α → Prop) :
    Prop :=
  ∀ transcript events,
    ∃ exchanges result journal,
      transcribing ⟨(state, transcript), events⟩ =
          (result, ⟨(facilities.after state exchanges, transcript ++ exchanges), journal⟩) ∧
        plain ⟨state, events⟩ = (result, ⟨facilities.after state exchanges, journal⟩) ∧
        course exchanges result

namespace Follows

variable
  {facilities : Facilities σ ι}
  {state : σ}

/-- A program without any use ends at once. -/
theorem pure
    {result : α}
    {course : Transcript ι → α → Prop}
    (ends : course [] result) :
    Follows facilities state (Pure.pure result) (Pure.pure result) course := by
  intro transcript events
  refine ⟨[], result, events, ?_, rfl, ends⟩
  rw [List.append_nil]
  rfl

/-- What follows a program depends on its exchanges and its result only. -/
theorem bind
    {first : Orchestrate σ α}
    {firstTranscribing : Orchestrate (σ × Transcript ι) α}
    {next : α → Orchestrate σ β}
    {nextTranscribing : α → Orchestrate (σ × Transcript ι) β}
    {firstCourse : Transcript ι → α → Prop}
    {course : Transcript ι → β → Prop}
    (begins : Follows facilities state first firstTranscribing firstCourse)
    (continues :
      ∀ exchanges result, firstCourse exchanges result →
        Follows facilities (facilities.after state exchanges) (next result)
          (nextTranscribing result) fun rest => course (exchanges ++ rest)) :
    Follows facilities state (first >>= next) (firstTranscribing >>= nextTranscribing) course := by
  intro transcript events
  obtain ⟨exchanges, result, journal, transcribes, runs, allowed⟩ := begins transcript events
  obtain ⟨rest, final, finalJournal, laterTranscribes, laterRuns, finalAllowed⟩ :=
    continues exchanges result allowed (transcript ++ exchanges) journal
  refine ⟨exchanges ++ rest, final, finalJournal, ?_, ?_, finalAllowed⟩
  · rw [Facilities.after_append, ← List.append_assoc, ← laterTranscribes]
    simp only [Bind.bind, StateT.bind, transcribes]
  · rw [Facilities.after_append, ← laterRuns]
    simp only [Bind.bind, StateT.bind, runs]

/-- Looking up a functor is one exchange. -/
theorem resolving
    (directory : String)
    (name : FunctorName) :
    Follows facilities state (facilities.resolveFunctor directory name)
      (facilities.transcribed.resolveFunctor directory name) fun exchanges answer =>
        exchanges = [.resolved directory name answer] ∧
          answer = (facilities.resolve directory name state).1 := by
  intro transcript events
  exact ⟨_, _, _, rfl, rfl, rfl, rfl⟩

/-- Invoking a functor is one exchange. -/
theorem invoking
    (functor : ResolvedFunctor ι)
    (mode : InvocationMode)
    (context : FunctorContext) :
    Follows facilities state (facilities.invokeFunctor functor mode context)
      (facilities.transcribed.invokeFunctor functor mode context) fun exchanges answer =>
        exchanges = [.invoked functor.handle mode context answer] ∧
          answer = (facilities.invoke functor.handle mode context state).1 := by
  intro transcript events
  exact ⟨_, _, _, rfl, rfl, rfl, rfl⟩

/-- Handing over a command is one exchange. -/
theorem commanding
    (command : Command) :
    Follows facilities state (facilities.runCommand command)
      (facilities.transcribed.runCommand command) fun exchanges answer =>
        exchanges = [.commanded command answer] ∧
          answer = (facilities.run command state).1 := by
  intro transcript events
  exact ⟨_, _, _, rfl, rfl, rfl, rfl⟩

section

variable {course : Transcript ι → α → Prop}

/-- A program that looks up a functor first goes on with the answer. -/
theorem resolveFunctor
    {directory : String}
    {name : FunctorName}
    {next : Except FunctorFault (ResolvedFunctor ι) → Orchestrate σ α}
    {nextTranscribing :
      Except FunctorFault (ResolvedFunctor ι) → Orchestrate (σ × Transcript ι) α}
    (continues :
      ∀ answer, answer = (facilities.resolve directory name state).1 →
        Follows facilities (facilities.after state [.resolved directory name answer])
          (next answer) (nextTranscribing answer)
          fun rest => course (.resolved directory name answer :: rest)) :
    Follows facilities state (facilities.resolveFunctor directory name >>= next)
      (facilities.transcribed.resolveFunctor directory name >>= nextTranscribing) course := by
  refine (resolving directory name).bind ?_
  rintro _ answer ⟨rfl, answered⟩
  exact continues answer answered

/-- A program that invokes a functor first goes on with the answer. -/
theorem invokeFunctor
    {functor : ResolvedFunctor ι}
    {mode : InvocationMode}
    {context : FunctorContext}
    {next : Except FunctorFault String → Orchestrate σ α}
    {nextTranscribing : Except FunctorFault String → Orchestrate (σ × Transcript ι) α}
    (continues :
      ∀ answer, answer = (facilities.invoke functor.handle mode context state).1 →
        Follows facilities (facilities.after state [.invoked functor.handle mode context answer])
          (next answer) (nextTranscribing answer)
          fun rest => course (.invoked functor.handle mode context answer :: rest)) :
    Follows facilities state (facilities.invokeFunctor functor mode context >>= next)
      (facilities.transcribed.invokeFunctor functor mode context >>= nextTranscribing)
      course := by
  refine (invoking functor mode context).bind ?_
  rintro _ answer ⟨rfl, answered⟩
  exact continues answer answered

/-- A program that hands over a command first goes on with the answer. -/
theorem runCommand
    {command : Command}
    {next : Except CommandFault CommandOutput → Orchestrate σ α}
    {nextTranscribing :
      Except CommandFault CommandOutput → Orchestrate (σ × Transcript ι) α}
    (continues :
      ∀ answer, answer = (facilities.run command state).1 →
        Follows facilities (facilities.after state [.commanded command answer])
          (next answer) (nextTranscribing answer)
          fun rest => course (.commanded command answer :: rest)) :
    Follows facilities state (facilities.runCommand command >>= next)
      (facilities.transcribed.runCommand command >>= nextTranscribing) course := by
  refine (commanding command).bind ?_
  rintro _ answer ⟨rfl, answered⟩
  exact continues answer answered

/-- A program that looks at the directories goes on in the same state. -/
theorem directories
    {next : (String → Bool) → Orchestrate σ α}
    {nextTranscribing : (String → Bool) → Orchestrate (σ × Transcript ι) α}
    (continues :
      Follows facilities state (next (facilities.isDirectory state))
        (nextTranscribing (facilities.isDirectory state)) course) :
    Follows facilities state (facilities.directories >>= next)
      (facilities.transcribed.directories >>= nextTranscribing) course :=
  continues

/-- When a program is run for many values, the courses for the single values are put together. -/
theorem mapM_joined
    {program : α → Orchestrate σ β}
    {programTranscribing : α → Orchestrate (σ × Transcript ι) β}
    {single : α → Transcript ι → Prop}
    (allowed : List α → Transcript ι → Prop)
    (empty : allowed [] [])
    (joined :
      ∀ value values first rest,
        single value first → allowed values rest → allowed (value :: values) (first ++ rest))
    (each :
      ∀ value later,
        Follows facilities later (program value) (programTranscribing value)
          fun exchanges _ => single value exchanges)
    (values : List α)
    (state : σ) :
    Follows facilities state (values.mapM program) (values.mapM programTranscribing)
      fun exchanges _ => allowed values exchanges := by
  induction values generalizing state with
  | nil =>
      rw [List.mapM_nil, List.mapM_nil]
      exact .pure empty
  | cons value values inductionHypothesis =>
      rw [List.mapM_cons, List.mapM_cons]
      refine (each value state).bind ?_
      intro first result firstCourse
      refine (inductionHypothesis _).bind ?_
      intro rest results restAllowed
      refine .pure ?_
      rw [List.append_nil]
      exact joined value values first rest firstCourse restAllowed

/-- Programs that use the facilities in some way only do so when they are run for many values. -/
theorem mapM
    {program : α → Orchestrate σ β}
    {programTranscribing : α → Orchestrate (σ × Transcript ι) β}
    {allowed : Exchange ι → Prop}
    (each :
      ∀ value later,
        Follows facilities later (program value) (programTranscribing value)
          fun exchanges _ => ∀ exchange ∈ exchanges, allowed exchange)
    (values : List α)
    (state : σ) :
    Follows facilities state (values.mapM program) (values.mapM programTranscribing)
      fun exchanges _ => ∀ exchange ∈ exchanges, allowed exchange := by
  refine mapM_joined (fun _ exchanges => ∀ exchange ∈ exchanges, allowed exchange)
    (List.forall_mem_nil _) ?_ each values state
  intro _ _ first rest firstAllowed restAllowed
  rw [List.forall_mem_append]
  exact ⟨firstAllowed, restAllowed⟩

/-- A course may be weakened. -/
theorem mono
    {plain : Orchestrate σ α}
    {transcribing : Orchestrate (σ × Transcript ι) α}
    {weaker : Transcript ι → α → Prop}
    (follows : Follows facilities state plain transcribing course)
    (weakens : ∀ exchanges result, course exchanges result → weaker exchanges result) :
    Follows facilities state plain transcribing weaker := by
  intro transcript events
  obtain ⟨exchanges, result, journal, transcribes, runs, allowed⟩ := follows transcript events
  exact ⟨exchanges, result, journal, transcribes, runs, weakens _ _ allowed⟩

end

/-- In a session the program runs once, plainly and transcribed alike. -/
theorem exists_runsAs
    {session : Session σ}
    {plain : Orchestrate σ α}
    {transcribing : Orchestrate (σ × Transcript ι) α}
    {course : Transcript ι → α → Prop}
    (follows : Follows facilities session.state plain transcribing course) :
    ∃ transcript result,
      RunsAs session plain transcribing transcript result ∧ course transcript result := by
  obtain ⟨exchanges, result, journal, transcribes, runs, allowed⟩ := follows [] session.events
  exact ⟨exchanges, result, ⟨journal, _, runs, transcribes⟩, allowed⟩

end Follows

end BenchmarkOrchestration
