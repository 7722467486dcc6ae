import BenchmarkOrchestration.Proofs.Orchestration.Transcript

namespace BenchmarkOrchestration

/-!
# Two runs side by side

Two programs are run on facilities of their own.  As long as the facilities answer alike, programs
that ask for the same see the same and can be followed step by step together.  Once their ways part
each is followed alone.
-/

/--
From states that are alike, facilities find the same functors, get the same texts from passive ones
and see the same directories, and are alike afterwards.
-/
structure AnswerAlike
    (first : Facilities σ ι)
    (second : Facilities τ ι)
    (alike : σ → τ → Prop) :
    Prop where
  resolve :
    ∀ directory name {firstState secondState},
      alike firstState secondState →
        (first.resolve directory name firstState).1 =
            (second.resolve directory name secondState).1 ∧
          alike (first.resolve directory name firstState).2
            (second.resolve directory name secondState).2
  askPassive :
    ∀ handle context {firstState secondState},
      alike firstState secondState →
        (first.invoke handle .passive context firstState).1 =
            (second.invoke handle .passive context secondState).1 ∧
          alike (first.invoke handle .passive context firstState).2
            (second.invoke handle .passive context secondState).2
  isDirectory :
    ∀ path {firstState secondState},
      alike firstState secondState →
        first.isDirectory firstState path = second.isDirectory secondState path

/-- Every facilities answer like themselves. -/
theorem AnswerAlike.refl
    (facilities : Facilities σ ι) :
    AnswerAlike facilities facilities Eq where
  resolve := by
    rintro directory name state _ rfl
    exact ⟨rfl, rfl⟩
  askPassive := by
    rintro handle context state _ rfl
    exact ⟨rfl, rfl⟩
  isDirectory := by
    rintro path state _ rfl
    rfl

/-- Two programs, each on its own facilities, whose runs belong together. -/
def FollowBoth
    (first : Facilities σ ι)
    (second : Facilities τ ι)
    (firstState : σ)
    (secondState : τ)
    (firstPlain : Orchestrate σ α)
    (firstTranscribing : Orchestrate (σ × Transcript ι) α)
    (secondPlain : Orchestrate τ β)
    (secondTranscribing : Orchestrate (τ × Transcript ι) β)
    (courses : Transcript ι → α → Transcript ι → β → Prop) :
    Prop :=
  Follows first firstState firstPlain firstTranscribing fun firstExchanges firstResult =>
    Follows second secondState secondPlain secondTranscribing fun secondExchanges secondResult =>
      courses firstExchanges firstResult secondExchanges secondResult

namespace FollowBoth

variable
  {first : Facilities σ ι}
  {second : Facilities τ ι}
  {alike : σ → τ → Prop}
  {firstState : σ}
  {secondState : τ}
  {firstPlain : Orchestrate σ α}
  {firstTranscribing : Orchestrate (σ × Transcript ι) α}
  {secondPlain : Orchestrate τ β}
  {secondTranscribing : Orchestrate (τ × Transcript ι) β}
  {courses : Transcript ι → α → Transcript ι → β → Prop}

/-- Two programs without any use end at once. -/
theorem pure
    {firstResult : α}
    {secondResult : β}
    (belong : courses [] firstResult [] secondResult) :
    FollowBoth first second firstState secondState (Pure.pure firstResult)
      (Pure.pure firstResult) (Pure.pure secondResult) (Pure.pure secondResult) courses :=
  Follows.pure (Follows.pure belong)

/-- Programs whose ways have parted are followed one by one. -/
theorem apart
    {firstCourse : Transcript ι → α → Prop}
    {secondCourse : Transcript ι → β → Prop}
    (firstFollows : Follows first firstState firstPlain firstTranscribing firstCourse)
    (secondFollows : Follows second secondState secondPlain secondTranscribing secondCourse)
    (belong :
      ∀ firstExchanges firstResult secondExchanges secondResult,
        firstCourse firstExchanges firstResult →
          secondCourse secondExchanges secondResult →
            courses firstExchanges firstResult secondExchanges secondResult) :
    FollowBoth first second firstState secondState firstPlain firstTranscribing secondPlain
      secondTranscribing courses := by
  refine firstFollows.mono ?_
  intro firstExchanges firstResult firstTaken
  refine secondFollows.mono ?_
  intro secondExchanges secondResult secondTaken
  exact belong _ _ _ _ firstTaken secondTaken

/-- Courses may be weakened. -/
theorem mono
    {weaker : Transcript ι → α → Transcript ι → β → Prop}
    (both :
      FollowBoth first second firstState secondState firstPlain firstTranscribing secondPlain
        secondTranscribing courses)
    (weakens :
      ∀ firstExchanges firstResult secondExchanges secondResult,
        courses firstExchanges firstResult secondExchanges secondResult →
          weaker firstExchanges firstResult secondExchanges secondResult) :
    FollowBoth first second firstState secondState firstPlain firstTranscribing secondPlain
      secondTranscribing weaker := by
  refine Follows.mono both ?_
  intro firstExchanges firstResult secondFollows
  refine secondFollows.mono ?_
  intro secondExchanges secondResult taken
  exact weakens _ _ _ _ taken

/-- The results may be changed at the end. -/
theorem map
    {firstChange : α → γ}
    {secondChange : β → δ}
    {changed : Transcript ι → γ → Transcript ι → δ → Prop}
    (both :
      FollowBoth first second firstState secondState firstPlain firstTranscribing secondPlain
        secondTranscribing fun firstExchanges firstResult secondExchanges secondResult =>
          changed firstExchanges (firstChange firstResult) secondExchanges
            (secondChange secondResult)) :
    FollowBoth first second firstState secondState
      (firstPlain >>= fun result => Pure.pure (firstChange result))
      (firstTranscribing >>= fun result => Pure.pure (firstChange result))
      (secondPlain >>= fun result => Pure.pure (secondChange result))
      (secondTranscribing >>= fun result => Pure.pure (secondChange result)) changed := by
  refine Follows.bind both ?_
  intro firstExchanges firstResult secondFollows
  refine Follows.pure ?_
  rw [List.append_nil]
  refine secondFollows.bind ?_
  intro secondExchanges secondResult taken
  refine Follows.pure ?_
  rw [List.append_nil]
  exact taken

section

variable
  (agree : AnswerAlike first second alike)
  (start : alike firstState secondState)

include agree start

/-- Programs that look up the same functor get the same answer and go on with it. -/
theorem resolveFunctor
    {directory : String}
    {name : FunctorName}
    {firstNext : Except FunctorFault (ResolvedFunctor ι) → Orchestrate σ α}
    {firstNextTranscribing :
      Except FunctorFault (ResolvedFunctor ι) → Orchestrate (σ × Transcript ι) α}
    {secondNext : Except FunctorFault (ResolvedFunctor ι) → Orchestrate τ β}
    {secondNextTranscribing :
      Except FunctorFault (ResolvedFunctor ι) → Orchestrate (τ × Transcript ι) β}
    (continues :
      ∀ answer firstLater secondLater,
        alike firstLater secondLater →
          FollowBoth first second firstLater secondLater (firstNext answer)
            (firstNextTranscribing answer) (secondNext answer) (secondNextTranscribing answer)
            fun firstExchanges firstResult secondExchanges secondResult =>
              courses (.resolved directory name answer :: firstExchanges) firstResult
                (.resolved directory name answer :: secondExchanges) secondResult) :
    FollowBoth first second firstState secondState
      (first.resolveFunctor directory name >>= firstNext)
      (first.transcribed.resolveFunctor directory name >>= firstNextTranscribing)
      (second.resolveFunctor directory name >>= secondNext)
      (second.transcribed.resolveFunctor directory name >>= secondNextTranscribing) courses := by
  obtain ⟨sameAnswer, later⟩ := agree.resolve directory name start
  refine Follows.resolveFunctor ?_
  intro answer answered
  refine Follows.mono (continues answer _ _ later) ?_
  intro firstExchanges firstResult secondFollows
  refine Follows.resolveFunctor ?_
  intro secondAnswer secondAnswered
  have same : secondAnswer = answer := by
    rw [secondAnswered, answered, sameAnswer]
  rw [same]
  exact secondFollows

/-- Programs that ask the same passive functor get the same answer and go on with it. -/
theorem askPassive
    {functor : ResolvedFunctor ι}
    {context : FunctorContext}
    {firstNext : Except FunctorFault String → Orchestrate σ α}
    {firstNextTranscribing : Except FunctorFault String → Orchestrate (σ × Transcript ι) α}
    {secondNext : Except FunctorFault String → Orchestrate τ β}
    {secondNextTranscribing : Except FunctorFault String → Orchestrate (τ × Transcript ι) β}
    (continues :
      ∀ answer firstLater secondLater,
        alike firstLater secondLater →
          FollowBoth first second firstLater secondLater (firstNext answer)
            (firstNextTranscribing answer) (secondNext answer) (secondNextTranscribing answer)
            fun firstExchanges firstResult secondExchanges secondResult =>
              courses (.invoked functor.handle .passive context answer :: firstExchanges)
                firstResult
                (.invoked functor.handle .passive context answer :: secondExchanges)
                secondResult) :
    FollowBoth first second firstState secondState
      (first.invokeFunctor functor .passive context >>= firstNext)
      (first.transcribed.invokeFunctor functor .passive context >>= firstNextTranscribing)
      (second.invokeFunctor functor .passive context >>= secondNext)
      (second.transcribed.invokeFunctor functor .passive context >>= secondNextTranscribing)
      courses := by
  obtain ⟨sameAnswer, later⟩ := agree.askPassive functor.handle context start
  refine Follows.invokeFunctor ?_
  intro answer answered
  refine Follows.mono (continues answer _ _ later) ?_
  intro firstExchanges firstResult secondFollows
  refine Follows.invokeFunctor ?_
  intro secondAnswer secondAnswered
  have same : secondAnswer = answer := by
    rw [secondAnswered, answered, sameAnswer]
  rw [same]
  exact secondFollows

/-- Programs that look at the directories see the same ones. -/
theorem directories
    {firstNext : (String → Bool) → Orchestrate σ α}
    {firstNextTranscribing : (String → Bool) → Orchestrate (σ × Transcript ι) α}
    {secondNext : (String → Bool) → Orchestrate τ β}
    {secondNextTranscribing : (String → Bool) → Orchestrate (τ × Transcript ι) β}
    (continues :
      ∀ isDirectory : String → Bool,
        FollowBoth first second firstState secondState (firstNext isDirectory)
          (firstNextTranscribing isDirectory) (secondNext isDirectory)
          (secondNextTranscribing isDirectory) courses) :
    FollowBoth first second firstState secondState (first.directories >>= firstNext)
      (first.transcribed.directories >>= firstNextTranscribing)
      (second.directories >>= secondNext)
      (second.transcribed.directories >>= secondNextTranscribing) courses := by
  have same : first.isDirectory firstState = second.isDirectory secondState :=
    funext fun path => agree.isDirectory path start
  refine Follows.directories ?_
  refine Follows.mono (continues (first.isDirectory firstState)) ?_
  intro firstExchanges firstResult secondFollows
  refine Follows.directories ?_
  rw [← same]
  exact secondFollows

end

end FollowBoth

end BenchmarkOrchestration
