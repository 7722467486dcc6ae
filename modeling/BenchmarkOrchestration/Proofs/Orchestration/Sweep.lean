import BenchmarkOrchestration.Proofs.Orchestration.BuildCourse
import BenchmarkOrchestration.Proofs.Orchestration.Steady
import BenchmarkOrchestration.Proofs.Targets.Enumeration

namespace BenchmarkOrchestration

/-!
# Sweeps over all targets

A sweep builds one target after the other.  With steady facilities each build does what it would do
alone, so that a failure neither stops nor changes what comes after it.  The targets come from the
configuration itself; in one that was read from a document every target is found again by the names
of its directory, its item and its flavor.
-/

namespace Build

section

variable
  {facilities : Facilities σ ι}
  {start : σ}
  (steady : facilities.Steady start)
  (settings : BuildSettings)

include steady

theorem runActive_hasCourse
    (functor : ResolvedFunctor ι)
    (outcome : BuildOutcome) :
    HasCourse facilities start (runActive facilities settings functor outcome)
      (runActive facilities.transcribed settings functor outcome) := by
  unfold runActive
  cases settings.isDry with
  | true =>
      exact .pure _
  | false =>
      refine .bind (.invokeFunctor steady functor .active _) ?_
      rintro (fault | output) <;> exact .pure _

theorem runCommands_hasCourse
    (directory cleanText buildText : String)
    (outcome : BuildOutcome) :
    HasCourse facilities start
      (runCommands facilities settings directory cleanText buildText outcome)
      (runCommands facilities.transcribed settings directory cleanText buildText outcome) := by
  unfold runCommands
  refine .bind (.runCommand steady _) ?_
  rintro (fault | cleaned)
  · exact .pure _
  refine .bind (.runCommand steady _) ?_
  rintro (fault | output) <;> exact .pure _

theorem runPassive_hasCourse
    (item : Item)
    (scope : DirectoryScope)
    (functor : ResolvedFunctor ι)
    (outcome : BuildOutcome) :
    HasCourse facilities start (runPassive facilities settings item scope functor outcome)
      (runPassive facilities.transcribed settings item scope functor outcome) := by
  unfold runPassive
  refine .bind (.resolveFunctor steady _ _) ?_
  rintro (fault | cleaner)
  · exact .pure _
  refine .bind (.invokeFunctor steady functor .passive _) ?_
  rintro (fault | buildText)
  · exact .pure _
  refine .bind (.invokeFunctor steady cleaner .passive _) ?_
  rintro (fault | cleanText)
  · exact .pure _
  refine .directories steady ?_
  cases scope.benchmarkDirectory (facilities.isDirectory start) outcome.target.item with
  | error path =>
      exact .pure _
  | ok path =>
      exact runCommands_hasCourse steady settings path cleanText buildText _

theorem runTarget_hasCourse
    (item : Item)
    (scope : DirectoryScope)
    (outcome : BuildOutcome) :
    HasCourse facilities start (runTarget facilities settings item scope outcome)
      (runTarget facilities.transcribed settings item scope outcome) := by
  unfold runTarget
  refine .bind (.resolveFunctor steady _ _) ?_
  rintro (fault | functor)
  · exact .pure _
  dsimp only
  cases functor.isActive with
  | true =>
      exact runActive_hasCourse steady settings functor outcome
  | false =>
      exact runPassive_hasCourse steady settings item scope functor outcome

end

end Build

namespace Configuration

/-- With steady facilities the build of a target always takes the same course. -/
theorem buildTarget_hasCourse
    {facilities : Facilities σ ι}
    {start : σ}
    (steady : facilities.Steady start)
    (config : Configuration)
    (settings : BuildSettings)
    (target : Target) :
    HasCourse facilities start (config.buildTarget facilities settings target)
      (config.buildTarget facilities.transcribed settings target) := by
  unfold buildTarget
  dsimp only
  cases config.declaredItem target with
  | error fault =>
      exact .pure _
  | ok item =>
      refine .directories steady ?_
      cases DirectoryScope.acquire (facilities.isDirectory start) target.build with
      | error path =>
          exact .pure _
      | ok scope =>
          refine .bind (Build.runTarget_hasCourse steady settings item scope _) ?_
          intro progress
          exact .pure _

end Configuration

namespace Build

variable
  {facilities : Facilities σ ι}
  {state : σ}
  {settings : BuildSettings}
  {item : Item}
  {scope : DirectoryScope}
  {functor : ResolvedFunctor ι}
  {outcome : BuildOutcome}
  {exchanges : Transcript ι}
  {progress : BuildProgress}

theorem ActiveCourse.cause_ne_lookup
    (course : ActiveCourse settings functor outcome exchanges progress)
    (fault : LookupFault) :
    progress.2 ≠ some (.lookup fault) := by
  cases course <;> simp

theorem CommandsCourse.cause_ne_lookup
    {directory cleanText buildText : String}
    (course : CommandsCourse settings directory cleanText buildText outcome exchanges progress)
    (fault : LookupFault) :
    progress.2 ≠ some (.lookup fault) := by
  cases course <;> simp

theorem PassiveCourse.cause_ne_lookup
    (course :
      PassiveCourse facilities state settings item scope functor outcome exchanges progress)
    (fault : LookupFault) :
    progress.2 ≠ some (.lookup fault) := by
  cases course with
  | cleanerUnresolved refusal =>
      simp
  | buildTextRefused cleaner refusal =>
      simp
  | cleanTextRefused cleaner buildText refusal =>
      simp
  | directoryMissing cleaner buildText cleanText missing =>
      simp
  | commanded cleaner buildText cleanText present commands =>
      exact commands.cause_ne_lookup fault

theorem TargetCourse.cause_ne_lookup
    (course : TargetCourse facilities state settings item scope outcome exchanges progress)
    (fault : LookupFault) :
    progress.2 ≠ some (.lookup fault) := by
  cases course with
  | unresolved refusal =>
      simp
  | active isActive course =>
      exact course.cause_ne_lookup fault
  | passive isPassive course =>
      exact course.cause_ne_lookup fault

end Build

namespace Configuration

/-- The build of a declared target does not fail by a look-up in the configuration. -/
theorem BuildCourse.cause_ne_lookup
    {config : Configuration}
    {facilities : Facilities σ ι}
    {state : σ}
    {settings : BuildSettings}
    {target : Target}
    {item : Item}
    {exchanges : Transcript ι}
    {result : Except BuildFault BuildOutcome}
    (declared : config.declaredItem target = .ok item)
    (course : config.BuildCourse facilities state settings target exchanges result)
    {fault : BuildFault}
    (failed : result = .error fault)
    (lookup : LookupFault) :
    fault.cause ≠ .lookup lookup := by
  cases course with
  | undeclared refusal refused =>
      rw [declared] at refused
      cases refused
  | directoryMissing other otherDeclared missing =>
      cases failed
      simp
  | begun other otherDeclared present course =>
      rename_i progress
      obtain ⟨outcome, cause?⟩ := progress
      cases cause? with
      | none =>
          cases failed
      | some cause =>
          cases failed
          intro same
          exact course.cause_ne_lookup lookup (congrArg some same)

/-- Every target of a populated configuration is declared by the item that it names. -/
theorem Populated.declaredItem_of_mem_targets
    {config : Configuration}
    (populated : config.Populated)
    {target : Target}
    (member : target ∈ config.targets) :
    ∃ item, config.declaredItem target = .ok item := by
  obtain ⟨item, found, declares⟩ := populated.mem_targets_iff.mp member
  exact ⟨item, declaredItem_eq_ok_iff.mpr ⟨found, declares⟩⟩

/--
The results and the transcript of a sweep are those of its single builds, each begun in the same
session as the sweep, and no build fails because the configuration does not know its target.
-/
structure SweepsSeparately
    (config : Configuration)
    (facilities : Facilities σ ι)
    (settings : BuildSettings)
    (session : Session σ)
    (results : List (Except BuildFault BuildOutcome))
    (transcript : Transcript ι) :
    Prop where
  eachResult :
    results =
      config.targets.map fun target => (config.buildTarget facilities settings target session).1
  eachTranscript :
    transcript =
      config.targets.flatMap fun target =>
        let alone :=
          config.buildTarget facilities.transcribed settings target (session.transcribed ι)
        alone.2.state.2
  neverUnknown :
    ∀ fault, .error fault ∈ results → ∀ lookup : LookupFault, fault.cause ≠ .lookup lookup

/--
A sweep over the configuration of an accepted document gives one result for each target, in order,
and does what the single builds do, if the answers of the facilities do not depend on earlier uses.
-/
theorem buildAll_sweepsSeparately
    {mode : ReadingMode}
    {home : String}
    {document : Json.Value}
    {config : Configuration}
    (accepted : Document.read mode home document = .ok config)
    {facilities : Facilities σ ι}
    {session : Session σ}
    (steady : facilities.Steady session.state)
    (settings : BuildSettings) :
    ∃ results transcript journal state,
      config.buildAll facilities settings session = (results, ⟨state, journal⟩) ∧
        config.buildAll facilities.transcribed settings (session.transcribed ι) =
          (results, ⟨(state, transcript), journal⟩) ∧
        SweepsSeparately config facilities settings session results transcript := by
  -- The sweep takes the courses of the single builds, which are the same before and after others.
  choose exchanges result takes using config.buildTarget_hasCourse steady settings
  have sweep := TakesCourse.mapM takes config.targets
  obtain ⟨journal, state, runs, transcribes⟩ := sweep.exists_run
  refine ⟨_, _, journal, state, runs, transcribes, ?_, ?_, ?_⟩
  · refine List.map_congr_left ?_
    intro target _
    exact (takes target).result_eq.symm
  · refine List.flatMap_congr ?_
    intro target _
    exact (takes target).transcript_eq.symm
  · -- A fault of the sweep is one of a build alone, whose target is declared by its own item.
    intro fault failed lookup
    obtain ⟨target, member, same⟩ := List.mem_map.mp failed
    obtain ⟨item, declared⟩ :=
      (Document.populated_of_read accepted).declaredItem_of_mem_targets member
    obtain ⟨taken, answer, _, _, runsAlone, course⟩ :=
      buildTarget_follows config facilities session.state settings target [] session.events
    have alone : answer = .error fault := by
      rw [← same, ← (takes target).result_eq]
      exact (congrArg Prod.fst runsAlone).symm
    exact course.cause_ne_lookup declared alone lookup

/-- One directory under a named key and under its own path, with one item below each. -/
def twoKeysDocument : Json.Value :=
  let functors := ("functors", .text "/f")
  let table := ("argmap", .object [("mapper", .text "Linear"), ("size", .text "1")])
  let tools := [functors, table, ("analyzer", .text "/a"), ("cubes", .text "/c")]
  .object
    [ ("directories", .object [("base", .text "~/b")]),
      ("builds", .object
        [ ("%base", .object
            [("items", .object
              [("k", .object (tools ++ [("flavors", .array [.text "x", .text "y"])]))])]),
          ("/home/b", .object
            [("items", .object [("m", .object (tools ++ [("flavors", .text "x")]))])]) ]) ]

/-- The build that both keys add to. -/
def twoKeysConfiguration : Configuration :=
  let sizes : ArgumentMapping :=
    ⟨.linear, [⟨"size", [.text "1"]⟩], none, fun _ =>
      ArgumentMapping.rectangular_of_mismatch?_eq_none rfl⟩
  let item (name : String) (flavors : List String) : Item :=
    { Item.plain name (.uniform "/f") (.mapped sizes) with
      analyzerDirectory := "/a"
      profileDirectory := "/c"
      flavors }
  ⟨.simplified, [⟨"/home/b", none, [item "k" ["x", "y"], item "m" ["x"]]⟩], [], .empty⟩

/-- Facilities that count their uses; they have no functors for the flavor `x` of one item. -/
def countingFacilities : Facilities Nat Unit where
  resolve directory name uses :=
    if name.benchmark = "k" ∧ name.flavor = "x" then
      (.error (.missingFile directory name.fileName), uses + 1)
    else
      (.ok ⟨name.fileName, false, ()⟩, uses + 1)
  invoke _ _ context uses := (.ok context.benchmark, uses + 1)
  run _ uses := (.ok ⟨"", .untimed⟩, uses + 1)
  isDirectory _ _ := true

/-- What the facilities answer does not depend on how often they were used. -/
theorem steady_countingFacilities :
    countingFacilities.Steady 0 where
  resolve past directory name := by
    simp only [countingFacilities]
    split <;> rfl
  invoke _ _ _ _ := rfl
  run _ _ := rfl
  isDirectory _ _ := rfl

/-- The first of three targets fails, and the other two are built. -/
theorem buildAll_sweepsSeparately_twoKeys :
    Document.read .detect "/home" twoKeysDocument = .ok twoKeysConfiguration ∧
      countingFacilities.Steady (Session.start 0).state ∧
      (∃ results transcript journal state,
        twoKeysConfiguration.buildAll countingFacilities .standard (.start 0) =
            (results, ⟨state, journal⟩) ∧
          twoKeysConfiguration.buildAll countingFacilities.transcribed .standard
              ((Session.start 0).transcribed Unit) =
            (results, ⟨(state, transcript), journal⟩) ∧
          SweepsSeparately twoKeysConfiguration countingFacilities .standard (.start 0) results
            transcript) ∧
      (twoKeysConfiguration.buildAll countingFacilities .standard (.start 0)).1 =
        [ .error ⟨.start ⟨"/home/b", "k", "x"⟩, .functor (.missingFile "/f" "k_x")⟩,
          .ok ⟨⟨"/home/b", "k", "y"⟩, some false, .succeeded, .succeeded⟩,
          .ok ⟨⟨"/home/b", "m", "x"⟩, some false, .succeeded, .succeeded⟩ ] := by
  have accepted :
      Document.read .detect "/home" twoKeysDocument = .ok twoKeysConfiguration := by
    decide +kernel
  refine ⟨accepted, steady_countingFacilities, ?_, ?_⟩
  · exact buildAll_sweepsSeparately accepted steady_countingFacilities .standard
  · decide +kernel

end Configuration

end BenchmarkOrchestration
