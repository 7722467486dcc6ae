import BenchmarkOrchestration.Proofs.Orchestration.Transcript

namespace BenchmarkOrchestration

/-!
# Steady facilities

Facilities are steady if earlier uses make no difference to their answers.  A program on steady
facilities takes the same course whenever it is run: it makes the same exchanges and ends with the
same result, whatever was done before.  Programs that run one after the other then do what each of
them does alone.
-/

namespace Facilities

/-- After any uses the answers are those that were given at the start. -/
structure Steady
    (facilities : Facilities σ ι)
    (start : σ) :
    Prop where
  resolve :
    ∀ past directory name,
      (facilities.resolve directory name (facilities.after start past)).1 =
        (facilities.resolve directory name start).1
  invoke :
    ∀ past handle mode context,
      (facilities.invoke handle mode context (facilities.after start past)).1 =
        (facilities.invoke handle mode context start).1
  run :
    ∀ past command,
      (facilities.run command (facilities.after start past)).1 = (facilities.run command start).1
  isDirectory :
    ∀ past path,
      facilities.isDirectory (facilities.after start past) path =
        facilities.isDirectory start path

end Facilities

/-- Whatever uses came before, a program makes the same exchanges and has the same result. -/
def TakesCourse
    (facilities : Facilities σ ι)
    (start : σ)
    (plain : Orchestrate σ α)
    (transcribing : Orchestrate (σ × Transcript ι) α)
    (exchanges : Transcript ι)
    (result : α) :
    Prop :=
  ∀ past,
    Follows facilities (facilities.after start past) plain transcribing fun taken answer =>
      taken = exchanges ∧ answer = result

/-- A program has a course that it always takes. -/
def HasCourse
    (facilities : Facilities σ ι)
    (start : σ)
    (plain : Orchestrate σ α)
    (transcribing : Orchestrate (σ × Transcript ι) α) :
    Prop :=
  ∃ exchanges result, TakesCourse facilities start plain transcribing exchanges result

namespace TakesCourse

variable
  {facilities : Facilities σ ι}
  {start : σ}

theorem pure
    (result : α) :
    TakesCourse facilities start (Pure.pure result) (Pure.pure result) [] result := by
  intro past
  exact .pure ⟨rfl, rfl⟩

/-- The course of two programs is the course of the first and then that of the second. -/
theorem bind
    {first : Orchestrate σ α}
    {firstTranscribing : Orchestrate (σ × Transcript ι) α}
    {next : α → Orchestrate σ β}
    {nextTranscribing : α → Orchestrate (σ × Transcript ι) β}
    {exchanges rest : Transcript ι}
    {result : α}
    {final : β}
    (begins : TakesCourse facilities start first firstTranscribing exchanges result)
    (continues :
      TakesCourse facilities start (next result) (nextTranscribing result) rest final) :
    TakesCourse facilities start (first >>= next) (firstTranscribing >>= nextTranscribing)
      (exchanges ++ rest) final := by
  intro past
  refine (begins past).bind ?_
  rintro taken answer ⟨rfl, rfl⟩
  rw [← Facilities.after_append]
  refine (continues (past ++ taken)).mono ?_
  rintro later last ⟨rfl, rfl⟩
  exact ⟨rfl, rfl⟩

/-- Programs that are run for one value after the other take their courses one after the other. -/
theorem mapM
    {program : α → Orchestrate σ β}
    {transcribing : α → Orchestrate (σ × Transcript ι) β}
    {exchanges : α → Transcript ι}
    {result : α → β}
    (each :
      ∀ value,
        TakesCourse facilities start (program value) (transcribing value) (exchanges value)
          (result value))
    (values : List α) :
    TakesCourse facilities start (values.mapM program) (values.mapM transcribing)
      (values.flatMap exchanges) (values.map result) := by
  induction values with
  | nil =>
      exact pure []
  | cons value rest inductionHypothesis =>
      rw [List.mapM_cons, List.mapM_cons, List.flatMap_cons, List.map_cons]
      refine (each value).bind ?_
      rw [← List.append_nil (rest.flatMap exchanges)]
      exact inductionHypothesis.bind (pure _)

section

variable
  {plain : Orchestrate σ α}
  {transcribing : Orchestrate (σ × Transcript ι) α}
  {exchanges : Transcript ι}
  {result : α}

/-- From the start on, the plain program and the transcribed one are run alike. -/
theorem exists_run
    {session : Session σ}
    (takes : TakesCourse facilities session.state plain transcribing exchanges result) :
    ∃ journal state,
      plain session = (result, ⟨state, journal⟩) ∧
        transcribing (session.transcribed ι) = (result, ⟨(state, exchanges), journal⟩) := by
  obtain ⟨taken, answer, journal, transcribes, runs, rfl, rfl⟩ := takes [] [] session.events
  exact ⟨journal, _, runs, transcribes⟩

/-- The result of a single run is that of the course. -/
theorem result_eq
    {session : Session σ}
    (takes : TakesCourse facilities session.state plain transcribing exchanges result) :
    (plain session).1 = result := by
  obtain ⟨journal, state, runs, _⟩ := takes.exists_run
  rw [runs]

/-- The transcript of a single run is that of the course. -/
theorem transcript_eq
    {session : Session σ}
    (takes : TakesCourse facilities session.state plain transcribing exchanges result) :
    (transcribing (session.transcribed ι)).2.state.2 = exchanges := by
  obtain ⟨journal, state, _, transcribes⟩ := takes.exists_run
  rw [transcribes]

end

end TakesCourse

namespace HasCourse

variable
  {facilities : Facilities σ ι}
  {start : σ}

theorem pure
    (result : α) :
    HasCourse facilities start (Pure.pure result) (Pure.pure result) :=
  ⟨[], result, .pure result⟩

/-- If the programs after all results have a course, so has the whole. -/
theorem bind
    {first : Orchestrate σ α}
    {firstTranscribing : Orchestrate (σ × Transcript ι) α}
    {next : α → Orchestrate σ β}
    {nextTranscribing : α → Orchestrate (σ × Transcript ι) β}
    (begins : HasCourse facilities start first firstTranscribing)
    (continues :
      ∀ result, HasCourse facilities start (next result) (nextTranscribing result)) :
    HasCourse facilities start (first >>= next) (firstTranscribing >>= nextTranscribing) := by
  obtain ⟨exchanges, result, takes⟩ := begins
  obtain ⟨rest, final, later⟩ := continues result
  exact ⟨exchanges ++ rest, final, takes.bind later⟩

section

variable (steady : facilities.Steady start)

include steady

theorem resolveFunctor
    (directory : String)
    (name : FunctorName) :
    HasCourse facilities start (facilities.resolveFunctor directory name)
      (facilities.transcribed.resolveFunctor directory name) := by
  refine ⟨[.resolved directory name (facilities.resolve directory name start).1],
    (facilities.resolve directory name start).1, ?_⟩
  intro past
  refine (Follows.resolving directory name).mono ?_
  rintro _ answer ⟨rfl, answered⟩
  rw [steady.resolve] at answered
  exact ⟨by rw [answered], answered⟩

theorem invokeFunctor
    (functor : ResolvedFunctor ι)
    (mode : InvocationMode)
    (context : FunctorContext) :
    HasCourse facilities start (facilities.invokeFunctor functor mode context)
      (facilities.transcribed.invokeFunctor functor mode context) := by
  refine ⟨[.invoked functor.handle mode context
      (facilities.invoke functor.handle mode context start).1],
    (facilities.invoke functor.handle mode context start).1, ?_⟩
  intro past
  refine (Follows.invoking functor mode context).mono ?_
  rintro _ answer ⟨rfl, answered⟩
  rw [steady.invoke] at answered
  exact ⟨by rw [answered], answered⟩

theorem runCommand
    (command : Command) :
    HasCourse facilities start (facilities.runCommand command)
      (facilities.transcribed.runCommand command) := by
  refine ⟨[.commanded command (facilities.run command start).1],
    (facilities.run command start).1, ?_⟩
  intro past
  refine (Follows.commanding command).mono ?_
  rintro _ answer ⟨rfl, answered⟩
  rw [steady.run] at answered
  exact ⟨by rw [answered], answered⟩

/-- A program that looks at the directories first has a course if it has one for those there. -/
theorem directories
    {next : (String → Bool) → Orchestrate σ α}
    {nextTranscribing : (String → Bool) → Orchestrate (σ × Transcript ι) α}
    (continues :
      HasCourse facilities start (next (facilities.isDirectory start))
        (nextTranscribing (facilities.isDirectory start))) :
    HasCourse facilities start (facilities.directories >>= next)
      (facilities.transcribed.directories >>= nextTranscribing) := by
  obtain ⟨exchanges, result, takes⟩ := continues
  refine ⟨exchanges, result, ?_⟩
  intro past
  have same : facilities.isDirectory (facilities.after start past) = facilities.isDirectory start :=
    funext (steady.isDirectory past)
  refine .directories ?_
  rw [same]
  exact takes past

end

end HasCourse

end BenchmarkOrchestration
