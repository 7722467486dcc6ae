import BenchmarkOrchestration.Proofs.Document.Detection
import BenchmarkOrchestration.Proofs.Orchestration.AnalysisCourse
import BenchmarkOrchestration.Proofs.Orchestration.BuildCourse
import BenchmarkOrchestration.Proofs.Orchestration.MatrixCourse
import BenchmarkOrchestration.Proofs.Targets.Enumeration
import BenchmarkOrchestration.Recording.Recorder

namespace BenchmarkOrchestration

/-!
# The benchmark that functors are told

Builds, the run matrix and analyses look every functor up for an item: in its directory for the
role, and under its benchmark.  Run and analysis functors are told this benchmark as well, but build
and clean functors are told the name of the item.  The two are the same in the simplified schema,
and in the legacy schema exactly for the names without a slash.
-/

/-- The directory in which the functor of a role is looked up. -/
def FunctorDirectories.forRole
    (directories : FunctorDirectories) :
    FunctorRole → String
  | .build => directories.build
  | .clean => directories.clean
  | .run => directories.run
  | .analyze => directories.analyze

/-- What the functor of a role is told as the benchmark of an item. -/
def Item.told
    (item : Item) :
    FunctorRole → String
  | .build => item.name
  | .clean => item.name
  | .run => item.benchmark
  | .analyze => item.benchmark

/-- The functors of all roles are told the same exactly if the name of the item is its benchmark. -/
theorem Item.told_eq_benchmark_iff
    {item : Item} :
    (∀ role, item.told role = item.benchmark) ↔ item.name = item.benchmark := by
  constructor
  · intro agrees
    exact agrees .build
  · intro same role
    cases role with
    | build => exact same
    | clean => exact same
    | analyze => rfl
    | run => rfl

/--
A transcript serves an item if it looks functors up in the directories of the item and under its
benchmark, and invokes only functors that were found for a role before.  Each of these is told what
belongs to the item and the role.
-/
inductive ServesItem
    (item : Item) :
    List (FunctorRole × ι) → Transcript ι → Prop
  | nil
      {found : List (FunctorRole × ι)} :
      ServesItem item found []
  | unresolved
      {found : List (FunctorRole × ι)}
      {directory : String}
      {name : FunctorName}
      {fault : FunctorFault}
      {rest : Transcript ι}
      (searched : directory = item.functors.forRole name.role)
      (named : name.benchmark = item.benchmark)
      (serves : ServesItem item found rest) :
      ServesItem item found (.resolved directory name (.error fault) :: rest)
  | resolved
      {found : List (FunctorRole × ι)}
      {directory : String}
      {name : FunctorName}
      {functor : ResolvedFunctor ι}
      {rest : Transcript ι}
      (searched : directory = item.functors.forRole name.role)
      (named : name.benchmark = item.benchmark)
      (serves : ServesItem item ((name.role, functor.handle) :: found) rest) :
      ServesItem item found (.resolved directory name (.ok functor) :: rest)
  | invoked
      {found : List (FunctorRole × ι)}
      {role : FunctorRole}
      {handle : ι}
      {mode : InvocationMode}
      {context : FunctorContext}
      {answer : Except FunctorFault String}
      {rest : Transcript ι}
      (known : (role, handle) ∈ found)
      (told : context.benchmark = item.told role)
      (serves : ServesItem item found rest) :
      ServesItem item found (.invoked handle mode context answer :: rest)
  | commanded
      {found : List (FunctorRole × ι)}
      {command : Command}
      {answer : Except CommandFault CommandOutput}
      {rest : Transcript ι}
      (serves : ServesItem item found rest) :
      ServesItem item found (.commanded command answer :: rest)

/-- A transcript serves items in turn if it is made of parts that each serve their item. -/
inductive ServesInTurn :
    List Item → Transcript ι → Prop
  | nil :
      ServesInTurn [] []
  | cons
      {item : Item}
      {items : List Item}
      {part others : Transcript ι}
      (serves : ServesItem item [] part)
      (servesOthers : ServesInTurn items others) :
      ServesInTurn (item :: items) (part ++ others)

/-- Every functor that is invoked is told the benchmark under which it was looked up before. -/
def Transcript.TellsSearched
    (transcript : Transcript ι) :
    Prop :=
  ∀ earlier handle mode context answer later,
    transcript = earlier ++ .invoked handle mode context answer :: later →
      ∃ directory name functor,
        .resolved directory name (.ok functor) ∈ earlier ∧
          functor.handle = handle ∧
          context.benchmark = name.benchmark

/-- What is invoked was found before, under the benchmark of the item, and is told as its role. -/
theorem ServesItem.exists_lookup
    {item : Item}
    {found : List (FunctorRole × ι)}
    {earlier later : Transcript ι}
    {handle : ι}
    {mode : InvocationMode}
    {context : FunctorContext}
    {answer : Except FunctorFault String}
    (serves : ServesItem item found (earlier ++ .invoked handle mode context answer :: later)) :
    ∃ role,
      context.benchmark = item.told role ∧
        ((role, handle) ∈ found ∨
          ∃ directory name functor,
            .resolved directory name (.ok functor) ∈ earlier ∧
              functor.handle = handle ∧
              name.benchmark = item.benchmark) := by
  induction earlier generalizing found with
  | nil =>
      cases serves with
      | invoked known told serves => exact ⟨_, told, .inl known⟩
  | cons exchange earlier inductionHypothesis =>
      -- The other exchanges may know one functor more, if this exchange finds it.
      have fromRest
          {known : List (FunctorRole × ι)}
          (behind :
            ServesItem item known (earlier ++ .invoked handle mode context answer :: later)) :
          ∃ role,
            context.benchmark = item.told role ∧
              ((role, handle) ∈ known ∨
                ∃ directory name functor,
                  .resolved directory name (.ok functor) ∈ exchange :: earlier ∧
                    functor.handle = handle ∧
                    name.benchmark = item.benchmark) := by
        obtain ⟨role, told, known | ⟨directory, name, functor, looked, found⟩⟩ :=
          inductionHypothesis behind
        · exact ⟨role, told, .inl known⟩
        · exact ⟨role, told, .inr
            ⟨directory, name, functor, List.mem_cons_of_mem _ looked, found⟩⟩
      cases serves with
      | unresolved searched named serves => exact fromRest serves
      | invoked known told serves => exact fromRest serves
      | commanded serves => exact fromRest serves
      | resolved searched named serves =>
          obtain ⟨role, told, known | looked⟩ := fromRest serves
          · rcases List.mem_cons.mp known with same | knownBefore
            · cases same
              exact ⟨_, told, .inr ⟨_, _, _, List.mem_cons_self, rfl, named⟩⟩
            · exact ⟨role, told, .inl knownBefore⟩
          · exact ⟨role, told, .inr looked⟩

/-- An item whose name is its benchmark has its functors told what they were looked up under. -/
theorem ServesItem.tellsSearched
    {item : Item}
    {transcript : Transcript ι}
    (serves : ServesItem item [] transcript)
    (same : item.name = item.benchmark) :
    transcript.TellsSearched := by
  rintro earlier handle mode context answer later rfl
  obtain ⟨role, told, known | ⟨directory, name, functor, looked, found, named⟩⟩ :=
    serves.exists_lookup
  · cases known
  · refine ⟨directory, name, functor, looked, found, ?_⟩
    rw [told, Item.told_eq_benchmark_iff.mpr same, named]

namespace ServesInTurn

/-- Nothing at all serves items in turn. -/
theorem of_nothing
    (items : List Item) :
    ServesInTurn items ([] : Transcript ι) := by
  induction items with
  | nil =>
      exact .nil
  | cons item items inductionHypothesis =>
      exact .cons .nil inductionHypothesis

/-- What serves one item serves it in turn. -/
theorem singleton
    {item : Item}
    {transcript : Transcript ι}
    (serves : ServesItem item [] transcript) :
    ServesInTurn [item] transcript := by
  rw [← List.append_nil transcript]
  exact .cons serves .nil

/-- Items may be served behind others. -/
theorem append
    {items others : List Item}
    {first second : Transcript ι}
    (serves : ServesInTurn items first)
    (servesOthers : ServesInTurn others second) :
    ServesInTurn (items ++ others) (first ++ second) := by
  induction serves with
  | nil =>
      exact servesOthers
  | cons servesItem servesRest inductionHypothesis =>
      rw [List.append_assoc]
      exact .cons servesItem inductionHypothesis

end ServesInTurn

namespace Build

section

variable
  {facilities : Facilities σ ι}
  {state : σ}
  {settings : BuildSettings}
  {item : Item}
  {scope : DirectoryScope}
  {functor : ResolvedFunctor ι}
  {outcome : BuildOutcome}
  {found : List (FunctorRole × ι)}
  {exchanges : Transcript ι}
  {progress : BuildProgress}

theorem ActiveCourse.servesItem
    (named : outcome.target.item = item.name)
    (known : (.build, functor.handle) ∈ found)
    (course : ActiveCourse settings functor outcome exchanges progress) :
    ServesItem item found exchanges := by
  cases course with
  | skipped dry => exact .nil
  | succeeded real output => exact .invoked known named .nil
  | failed real fault => exact .invoked known named .nil

theorem CommandsCourse.servesItem
    {directory cleanText buildText : String}
    (course : CommandsCourse settings directory cleanText buildText outcome exchanges progress) :
    ServesItem item found exchanges := by
  cases course with
  | cleanFailed fault => exact .commanded .nil
  | buildFailed cleaned fault => exact .commanded (.commanded .nil)
  | built cleaned output => exact .commanded (.commanded .nil)

theorem PassiveCourse.servesItem
    (named : outcome.target.item = item.name)
    (known : (.build, functor.handle) ∈ found)
    (course :
      PassiveCourse facilities state settings item scope functor outcome exchanges progress) :
    ServesItem item found exchanges := by
  have knownStill
      (cleaner : ResolvedFunctor ι) :
      (.build, functor.handle) ∈ (FunctorRole.clean, cleaner.handle) :: found :=
    List.mem_cons_of_mem _ known
  cases course with
  | cleanerUnresolved fault =>
      exact .unresolved rfl rfl .nil
  | buildTextRefused cleaner fault =>
      exact .resolved rfl rfl <| .invoked (knownStill cleaner) named .nil
  | cleanTextRefused cleaner buildText fault =>
      exact .resolved rfl rfl <| .invoked (knownStill cleaner) named <|
        .invoked List.mem_cons_self named .nil
  | directoryMissing cleaner buildText cleanText missing =>
      exact .resolved rfl rfl <| .invoked (knownStill cleaner) named <|
        .invoked List.mem_cons_self named .nil
  | commanded cleaner buildText cleanText present commands =>
      exact .resolved rfl rfl <| .invoked (knownStill cleaner) named <|
        .invoked List.mem_cons_self named commands.servesItem

theorem TargetCourse.servesItem
    (named : outcome.target.item = item.name)
    (course : TargetCourse facilities state settings item scope outcome exchanges progress) :
    ServesItem item [] exchanges := by
  cases course with
  | unresolved fault =>
      exact .unresolved rfl rfl .nil
  | active isActive course =>
      exact .resolved rfl rfl (course.servesItem named List.mem_cons_self)
  | passive isPassive course =>
      exact .resolved rfl rfl (course.servesItem named List.mem_cons_self)

end

end Build

namespace RunMatrix

section

variable
  {options : SortedTable}
  {cell : String × String × Item}
  {cells : List (String × String × Item)}
  {exchanges : Transcript ι}

theorem Turn.servesItem
    (turn : Turn ι) :
    ServesItem turn.cell.2.2 [] (turn.exchanges options) :=
  .resolved rfl rfl (.invoked List.mem_cons_self rfl .nil)

theorem FailedTurn.servesItem
    {failure : Failure}
    (fails : FailedTurn options cell exchanges failure) :
    ServesItem cell.2.2 [] exchanges := by
  cases fails with
  | unresolved fault =>
      exact .unresolved rfl rfl .nil
  | refused generator fault =>
      exact .resolved rfl rfl (.invoked List.mem_cons_self rfl .nil)
  | silent generator =>
      exact .resolved rfl rfl (.invoked List.mem_cons_self rfl .nil)

/-- Successful turns serve the items of their cells in turn. -/
theorem servesInTurn_turns
    (turns : List (Turn ι)) :
    ServesInTurn ((turns.map Turn.cell).map (·.2.2))
      (turns.flatMap (Turn.exchanges options)) := by
  induction turns with
  | nil =>
      exact .nil
  | cons turn turns inductionHypothesis =>
      exact .cons turn.servesItem inductionHypothesis

/-- The cells are served in turn, from the first up to one of them. -/
theorem MatrixCourse.servesInTurn
    {result : Except Failure (List RunEntry)}
    (course : MatrixCourse options cells exchanges result) :
    ∃ served, served <+: cells ∧ ServesInTurn (served.map (·.2.2)) exchanges := by
  cases course with
  | complete turns whole =>
      subst whole
      exact ⟨_, List.prefix_rfl, servesInTurn_turns turns⟩
  | stopped turns cell rest split fails =>
      refine ⟨turns.map Turn.cell ++ [cell], ⟨rest, by simpa using split⟩, ?_⟩
      rw [List.map_append]
      exact (servesInTurn_turns turns).append (.singleton fails.servesItem)

end

end RunMatrix

/-- The analysis of an item serves this item. -/
theorem Analysis.ItemCourse.servesItem
    {isDry : Bool}
    {item : Item}
    {flavor : String}
    {phase : Phase}
    {exchanges : Transcript ι}
    {result : Except Failure AnalysisOutcome}
    (course : ItemCourse isDry item flavor phase exchanges result) :
    ServesItem item [] exchanges := by
  cases course with
  | unresolved fault =>
      exact .unresolved rfl rfl .nil
  | skipped functor isActive dry =>
      exact .resolved rfl rfl .nil
  | refused functor isActive real fault =>
      exact .resolved rfl rfl (.invoked List.mem_cons_self rfl .nil)
  | delegated functor isActive real output =>
      exact .resolved rfl rfl (.invoked List.mem_cons_self rfl .nil)
  | textRefused functor isPassive fault =>
      exact .resolved rfl rfl (.invoked List.mem_cons_self rfl .nil)
  | argumentsRefused functor isPassive base fault invalid =>
      exact .resolved rfl rfl (.invoked List.mem_cons_self rfl .nil)
  | commandFailed functor isPassive base arguments valid fault =>
      exact .resolved rfl rfl <| .invoked List.mem_cons_self rfl <| .commanded .nil
  | commanded functor isPassive base arguments valid output =>
      exact .resolved rfl rfl <| .invoked List.mem_cons_self rfl <| .commanded .nil

namespace Configuration

/-- The item of a target, if there is one of its name. -/
def itemsOf
    (config : Configuration)
    (target : Target) :
    List Item :=
  (config.item target.build target.item).toOption.toList

/-- What serves the item of a target serves it in turn. -/
theorem servesInTurn_itemsOf
    {config : Configuration}
    {target : Target}
    {item : Item}
    {transcript : Transcript ι}
    (known : config.item target.build target.item = .ok item)
    (serves : ServesItem item [] transcript) :
    ServesInTurn (config.itemsOf target) transcript := by
  rw [itemsOf, known]
  exact .singleton serves

section

variable
  (config : Configuration)
  (facilities : Facilities σ ι)
  (state : σ)

/-- The build of a target serves its item. -/
theorem buildTarget_follows_servesInTurn
    (settings : BuildSettings)
    (target : Target) :
    Follows facilities state (config.buildTarget facilities settings target)
      (config.buildTarget facilities.transcribed settings target)
      fun exchanges _ => ServesInTurn (config.itemsOf target) exchanges := by
  refine (buildTarget_follows config facilities state settings target).mono ?_
  intro exchanges result course
  cases course with
  | undeclared fault refused =>
      exact .of_nothing _
  | directoryMissing item declared missing =>
      exact .of_nothing _
  | begun item declared present course =>
      obtain ⟨known, _⟩ := declaredItem_eq_ok_iff.mp declared
      obtain ⟨_, named⟩ := mem_placedItems_of_item_eq_ok known
      exact servesInTurn_itemsOf known (course.servesItem named.symm)

/-- The builds of all targets serve their items in turn. -/
theorem buildAll_follows_servesInTurn
    (settings : BuildSettings) :
    Follows facilities state (config.buildAll facilities settings)
      (config.buildAll facilities.transcribed settings)
      fun exchanges _ => ServesInTurn (config.targets.flatMap config.itemsOf) exchanges := by
  have each (target : Target) (later : σ) :=
    buildTarget_follows_servesInTurn config facilities later settings target
  refine Follows.mapM_joined
    (fun targets exchanges => ServesInTurn (targets.flatMap config.itemsOf) exchanges)
    .nil ?_ each config.targets state
  intro target targets first rest serves servesRest
  exact serves.append servesRest

/-- The run matrix serves the items of its cells in turn, up to one of them. -/
theorem runMatrix_follows_servesInTurn
    (options : SortedTable) :
    Follows facilities state (config.runMatrix facilities options)
      (config.runMatrix facilities.transcribed options)
      fun exchanges _ =>
        ∃ served, served <+: RunMatrix.cells config ∧
          ServesInTurn (served.map (·.2.2)) exchanges := by
  refine (RunMatrix.entries_follows facilities options (RunMatrix.cells config) state).mono ?_
  intro exchanges result course
  exact course.servesInTurn

/-- The analysis of a target serves its item. -/
theorem analyze_follows_servesInTurn
    (isDry : Bool)
    (target : Target)
    (phase : Phase) :
    Follows facilities state (config.analyze facilities isDry target phase)
      (config.analyze facilities.transcribed isDry target phase)
      fun exchanges _ => ServesInTurn (config.itemsOf target) exchanges := by
  refine (analyze_follows config facilities state isDry target phase).mono ?_
  intro exchanges result course
  cases course with
  | unknown fault missing =>
      exact .of_nothing _
  | found item known course =>
      exact servesInTurn_itemsOf known course.servesItem

end

/-- The name of an item is its benchmark in the simplified schema, or if it has no slash. -/
theorem name_eq_benchmark_iff
    {mode : ReadingMode}
    {home : String}
    {document : Json.Value}
    {config : Configuration}
    (accepted : Document.read mode home document = .ok config)
    {build : Build}
    (buildMember : build ∈ config.builds)
    {item : Item}
    (itemMember : item ∈ build.items) :
    item.name = item.benchmark ↔ config.schema = .simplified ∨ '/' ∉ item.name.toList := by
  have acceptedAs := Document.readAs_schema_of_read accepted
  cases schema : config.schema with
  | simplified =>
      rw [schema] at acceptedAs
      have same := Document.Simplified.benchmark_eq_name acceptedAs buildMember itemMember
      exact iff_of_true same.symm (.inl rfl)
  | legacy =>
      rw [schema] at acceptedAs
      have last := Document.Legacy.isLastComponent_benchmark acceptedAs buildMember itemMember
      constructor
      · intro same
        rw [same]
        exact .inr last.1
      · rintro (⟨⟨⟩⟩ | unmarked)
        have whole : IsLastComponent item.name item.name := ⟨unmarked, .inl rfl⟩
        rw [← benchmarkOfKey_of_isLastComponent last, benchmarkOfKey_of_isLastComponent whole]

/--
Which benchmark functors are told, whatever the facilities answer.  Builds and analyses serve the
item of their target, and sweeps and the run matrix serve items in turn.  The functors of an item
are all told its benchmark exactly in the simplified schema or if its name has no slash; then they
are told what they were looked up under.
-/
structure TellsBenchmarks
    (config : Configuration)
    (facilities : Facilities σ ι)
    (session : Session σ) :
    Prop where
  building :
    ∀ settings target, ∃ transcript result,
      RunsAs session (config.buildTarget facilities settings target)
          (config.buildTarget facilities.transcribed settings target) transcript result ∧
        ServesInTurn (config.itemsOf target) transcript
  sweeping :
    ∀ settings, ∃ transcript result,
      RunsAs session (config.buildAll facilities settings)
          (config.buildAll facilities.transcribed settings) transcript result ∧
        ServesInTurn (config.targets.flatMap config.itemsOf) transcript
  generating :
    ∀ options, ∃ transcript result,
      RunsAs session (config.runMatrix facilities options)
          (config.runMatrix facilities.transcribed options) transcript result ∧
        ∃ served, served <+: RunMatrix.cells config ∧
          ServesInTurn (served.map (·.2.2)) transcript
  analyzing :
    ∀ isDry target phase, ∃ transcript result,
      RunsAs session (config.analyze facilities isDry target phase)
          (config.analyze facilities.transcribed isDry target phase) transcript result ∧
        ServesInTurn (config.itemsOf target) transcript
  agrees_iff :
    ∀ build ∈ config.builds, ∀ item ∈ build.items,
      (∀ role, item.told role = item.benchmark) ↔
        config.schema = .simplified ∨ '/' ∉ item.name.toList
  tellsSearched :
    ∀ build ∈ config.builds, ∀ item ∈ build.items,
      (config.schema = .simplified ∨ '/' ∉ item.name.toList) →
        ∀ transcript : Transcript ι, ServesItem item [] transcript → transcript.TellsSearched

/--
The functors of an accepted document are looked up under the benchmarks of its items.  Run and
analysis functors are told these benchmarks, build and clean functors the names of the items.
-/
theorem tellsBenchmarks_of_read
    {mode : ReadingMode}
    {home : String}
    {document : Json.Value}
    {config : Configuration}
    (accepted : Document.read mode home document = .ok config)
    (facilities : Facilities σ ι)
    (session : Session σ) :
    TellsBenchmarks config facilities session where
  building settings target :=
    (buildTarget_follows_servesInTurn config facilities session.state settings target).exists_runsAs
  sweeping settings :=
    (buildAll_follows_servesInTurn config facilities session.state settings).exists_runsAs
  generating options :=
    (runMatrix_follows_servesInTurn config facilities session.state options).exists_runsAs
  analyzing isDry target phase :=
    (analyze_follows_servesInTurn config facilities session.state isDry target
      phase).exists_runsAs
  agrees_iff := by
    intro build buildMember item itemMember
    rw [Item.told_eq_benchmark_iff]
    exact name_eq_benchmark_iff accepted buildMember itemMember
  tellsSearched := by
    intro build buildMember item itemMember agreeing transcript serves
    exact serves.tellsSearched
      ((name_eq_benchmark_iff accepted buildMember itemMember).mpr agreeing)

/-- A legacy document with an item whose key is a path. -/
def pathKeyDocument : Json.Value :=
  .object
    [("description", .object
      [ ("directories", .array [.text "/b"]),
        ("glob-flavors", .array []),
        ("glob-submitter", .object []),
        ("builds", .object
          [("/b", .object
            [ ("prefix", .text "p"),
              ("items", .array [.text "cpu/astar"]),
              ("flavors", .object
                [ ("instrument-analysis", .object
                    [("cpu/astar", .array [.text "/an", .text "/ex", .text "/ad"])]),
                  ("builders", .object [("cpu/astar", .text "/f")]),
                  ("run", .object
                    [("cpu/astar", .object
                      [ ("args", .array []), ("runner", .text "/f"), ("submitter", .text "s"),
                        ("batch_script", .text "bs") ])]),
                  ("cpu/astar", .array [.text "ct"]) ]) ])]) ])]

/-- The item of the document. -/
def pathKeyItem : Item :=
  { Item.plain "cpu/astar" ⟨"/f", "/f", "/f", "/an"⟩ (.listed []) with
    benchmark := "astar"
    flavors := ["ct"]
    analyzerDirectory := "/ad"
    profileDirectory := "/ex"
    analysisFunctor := some "/an"
    submitter := some "s"
    batchScript := some "bs" }

/-- The configuration of the document. -/
def pathKeyConfiguration : Configuration :=
  ⟨.legacy, [⟨"/b", some "p", [pathKeyItem]⟩], [], .empty⟩

/-- A recorder with an active build functor and a run functor for the benchmark. -/
def pathKeyRecorder : Recorder where
  functors :=
    [ ((Path.key "/f", "astar_ct"), ⟨"astar_ct", true, "done", none⟩),
      ((Path.key "/f", "runner_astar_ct"), ⟨"runner_astar_ct", true, "a.sh", none⟩) ]
  calls := []
  commands := []
  stdout := ""
  failing := []
  tree := ⟨[(["b"], .directory)]⟩
  here := []

/-- The functors of the item are looked up under the last component of its key. -/
theorem tellsBenchmarks_of_read_pathKey :
    Document.read .detect "/home" pathKeyDocument = .ok pathKeyConfiguration ∧
      TellsBenchmarks pathKeyConfiguration Recorder.facilities (.start pathKeyRecorder) := by
  have accepted :
      Document.read .detect "/home" pathKeyDocument = .ok pathKeyConfiguration := by
    decide +kernel
  exact ⟨accepted, tellsBenchmarks_of_read accepted Recorder.facilities (.start pathKeyRecorder)⟩

/-- The build functor of the item is told the key, its run functor the benchmark. -/
theorem calls_disagree_pathKey :
    Document.read .detect "/home" pathKeyDocument = .ok pathKeyConfiguration ∧
      pathKeyConfiguration.item "/b" "cpu/astar" = .ok pathKeyItem ∧
      pathKeyItem.benchmark = "astar" ∧
      (pathKeyConfiguration.buildTarget Recorder.facilities .standard ⟨"/b", "cpu/astar", "ct"⟩
          (.start pathKeyRecorder)).2.state.calls =
        [⟨"astar_ct", .active, "cpu/astar", "/b"⟩] ∧
      (pathKeyConfiguration.runMatrix Recorder.facilities .empty
          (.start pathKeyRecorder)).2.state.calls =
        [⟨"runner_astar_ct", .active, "astar", "/b"⟩] := by
  decide +kernel

end Configuration

end BenchmarkOrchestration
