import BenchmarkOrchestration.Proofs.Document.Detection
import BenchmarkOrchestration.Proofs.Orchestration.MatrixCourse
import BenchmarkOrchestration.Recording.Recorder

namespace BenchmarkOrchestration

/-!
# Telling the entries of the run matrix apart

An entry of the run matrix names its build, its benchmark and its flavor, but not its item.  Entries
can be told apart by these exactly if no build has two items with the same benchmark and a common
flavor.  In the simplified schema the benchmark is the name of the item, so this never happens.  In
the legacy schema it is only the last component of the name, and then it can.
-/

namespace Item

/-- Two items clash if they have the same benchmark and a common flavor. -/
def Clashes
    (first second : Item) :
    Prop :=
  first.benchmark = second.benchmark ∧ ∃ flavor ∈ first.flavors, flavor ∈ second.flavors

end Item

namespace RunMatrix

/-- What an entry says about where it comes from: its build, its benchmark and its flavor. -/
def entryLabel
    (entry : RunEntry) :
    String × String × String :=
  (entry.build, entry.benchmark, entry.flavor)

/-- The label of the entry of a cell. -/
def cellLabel
    (cell : String × String × Item) :
    String × String × String :=
  (cell.2.1, cell.2.2.benchmark, cell.1)

/-- A label tells the directory, the benchmark and the flavor of its cell. -/
theorem cellLabel_eq_iff
    {flavor directory : String}
    {item : Item}
    {label : String × String × String} :
    cellLabel (flavor, directory, item) = label ↔
      directory = label.1 ∧ item.benchmark = label.2.1 ∧ flavor = label.2.2 := by
  rw [cellLabel, Prod.ext_iff, Prod.ext_iff]

/-- The entries of a successful generation are labelled as its cells are. -/
theorem map_entryLabel_eq
    {config : Configuration}
    {facilities : Facilities σ ι}
    {options : SortedTable}
    {session : Session σ}
    {entries : List RunEntry}
    (generated : (config.runMatrix facilities options session).1 = .ok entries) :
    entries.map entryLabel = (cells config).map cellLabel := by
  obtain ⟨transcript, result, journal, _, runs, course⟩ :=
    entries_follows facilities options (cells config) session.state [] session.events
  have complete : result = .ok entries := by
    have outcome := congrArg Prod.fst runs
    exact outcome.symm.trans generated
  subst complete
  cases course with
  | complete turns whole =>
      rw [← whole, List.map_map, List.map_map]
      rfl

variable {config : Configuration}

/-- The cells of one flavor in one build, in the order of the items. -/
def cellsIn
    (flavor : String)
    (build : Build) :
    List (String × String × Item) :=
  (build.items.filter fun item => item.declaresFlavor flavor).map fun item =>
    (flavor, build.directory, item)

/-- The label of a cell tells its flavor and its directory. -/
theorem label_of_mem_cellsIn
    {flavor : String}
    {build : Build}
    {label : String × String × String}
    (member : label ∈ (cellsIn flavor build).map cellLabel) :
    build.directory = label.1 ∧ flavor = label.2.2 := by
  simp only [cellsIn, List.map_map, List.mem_map, Function.comp_apply, cellLabel_eq_iff] at member
  obtain ⟨_, _, sameDirectory, _, sameFlavor⟩ := member
  exact ⟨sameDirectory, sameFlavor⟩

/-- The cells of one flavor in one build have distinct labels if the benchmarks are distinct. -/
theorem nodup_map_cellLabel_cellsIn_iff
    {flavor : String}
    {build : Build} :
    ((cellsIn flavor build).map cellLabel).Nodup ↔
      build.items.Pairwise fun first second =>
        flavor ∈ first.flavors → flavor ∈ second.flavors → first.benchmark ≠ second.benchmark := by
  rw [cellsIn, List.map_map, List.Nodup, List.pairwise_map, List.pairwise_filter]
  simp only [Item.declaresFlavor, List.contains_iff_mem, Function.comp_apply, ne_eq,
    cellLabel_eq_iff]
  simp only [cellLabel, true_and, and_true]

/-- Labels of cells can only coincide for one flavor and in one build. -/
theorem nodup_map_cellLabel_iff_cellsIn
    (populated : config.Populated) :
    ((cells config).map cellLabel).Nodup ↔
      ∀ flavor ∈ config.allFlavors, ∀ build ∈ config.builds,
        ((cellsIn flavor build).map cellLabel).Nodup := by
  have directories := populated.directories_nodup
  rw [Configuration.directories, List.Nodup, List.pairwise_map] at directories
  have flavors := nodup_firstSeen config.declaredFlavors
  rw [← config.allFlavors_eq] at flavors
  rw [cells, List.map_flatMap, List.nodup_flatMap]
  simp only [List.map_flatMap, List.nodup_flatMap]
  constructor
  · rintro ⟨ofFlavor, _⟩ flavor declared build member
    exact (ofFlavor flavor declared).1 build member
  · intro inEach
    refine ⟨fun flavor declared => ⟨inEach flavor declared, ?_⟩, ?_⟩
    · refine directories.imp ?_
      intro first second differ label inFirst inSecond
      apply differ
      rw [(label_of_mem_cellsIn inFirst).1, (label_of_mem_cellsIn inSecond).1]
    · refine flavors.imp ?_
      intro first second differ label inFirst inSecond
      apply differ
      obtain ⟨build, _, here⟩ := List.mem_flatMap.mp inFirst
      obtain ⟨other, _, there⟩ := List.mem_flatMap.mp inSecond
      rw [(label_of_mem_cellsIn here).2, (label_of_mem_cellsIn there).2]

/-- The cells have distinct labels exactly if no two items of a build clash. -/
theorem nodup_map_cellLabel_iff
    (populated : config.Populated) :
    ((cells config).map cellLabel).Nodup ↔
      ∀ build ∈ config.builds,
        build.items.Pairwise fun first second => ¬ first.Clashes second := by
  rw [nodup_map_cellLabel_iff_cellsIn populated]
  simp only [nodup_map_cellLabel_cellsIn_iff, List.pairwise_iff_forall_sublist]
  constructor
  · rintro apart build member first second inOrder ⟨sameBenchmark, flavor, inFirst, inSecond⟩
    have declared : flavor ∈ config.allFlavors := by
      have firstMember : first ∈ build.items := inOrder.subset List.mem_cons_self
      rw [Configuration.allFlavors, mem_firstSeen, List.mem_flatMap]
      exact ⟨build, member, List.mem_flatMap.mpr ⟨first, firstMember, inFirst⟩⟩
    exact apart flavor declared build member inOrder inFirst inSecond sameBenchmark
  · intro noClash flavor _ build member first second inOrder inFirst inSecond sameBenchmark
    exact noClash build member inOrder ⟨sameBenchmark, flavor, inFirst, inSecond⟩

/-- Two items of the legacy schema clash if their names end alike and they share a flavor. -/
def ClashByName
    (first second : Item) :
    Prop :=
  (∃ component, IsLastComponent first.name component ∧ IsLastComponent second.name component) ∧
    ∃ flavor ∈ first.flavors, flavor ∈ second.flavors

/-- How far the entries of a generation can be told apart by their labels. -/
structure LabelsEntries
    (config : Configuration)
    (entries : List RunEntry) :
    Prop where
  labels : entries.map entryLabel = (cells config).map cellLabel
  distinct_iff :
    (entries.map entryLabel).Nodup ↔
      ∀ build ∈ config.builds,
        build.items.Pairwise fun first second => ¬ first.Clashes second
  ofSimplified :
    config.schema = .simplified → (entries.map entryLabel).Nodup
  ofLegacy_iff :
    config.schema = .legacy →
      ((entries.map entryLabel).Nodup ↔
        ∀ build ∈ config.builds,
          build.items.Pairwise fun first second => ¬ ClashByName first second)

/--
The entries of a successful generation for an accepted document are labelled by the cells of its run
matrix.  The labels are distinct in the simplified schema.  In the legacy schema they are distinct
exactly if no build has two items with names that end alike and a common flavor.
-/
theorem labelsEntries_of_read
    {mode : ReadingMode}
    {home : String}
    {document : Json.Value}
    {config : Configuration}
    (accepted : Document.read mode home document = .ok config)
    {facilities : Facilities σ ι}
    {options : SortedTable}
    {session : Session σ}
    {entries : List RunEntry}
    (generated : (config.runMatrix facilities options session).1 = .ok entries) :
    LabelsEntries config entries := by
  have labels := map_entryLabel_eq generated
  have populated := Document.populated_of_read accepted
  have acceptedAs := Document.readAs_schema_of_read accepted
  have distinct := nodup_map_cellLabel_iff populated
  rw [← labels] at distinct
  refine ⟨labels, distinct, ?_, ?_⟩
  · intro simplified
    rw [simplified] at acceptedAs
    rw [distinct]
    intro build member
    have names := populated.names_nodup member
    rw [List.Nodup, List.pairwise_map] at names
    refine names.imp_of_mem ?_
    rintro first second firstMember secondMember differ ⟨sameBenchmark, _⟩
    apply differ
    rw [← Document.Simplified.benchmark_eq_name acceptedAs member firstMember,
      ← Document.Simplified.benchmark_eq_name acceptedAs member secondMember, sameBenchmark]
  · intro legacy
    rw [legacy] at acceptedAs
    rw [distinct]
    refine forall₂_congr fun build member => ?_
    refine List.Pairwise.iff_of_mem fun {first second} firstMember secondMember => ?_
    have ofFirst := Document.Legacy.isLastComponent_benchmark acceptedAs member firstMember
    have ofSecond := Document.Legacy.isLastComponent_benchmark acceptedAs member secondMember
    rw [Item.Clashes, ClashByName, eq_iff_exists_isLastComponent ofFirst ofSecond]

/-- A legacy document with two items that have the same last component and a common flavor. -/
def sharedNameDocument : Json.Value :=
  let analysis : Json.Value := .array [.text "/an", .text "/ex", .text "/ad"]
  let settings (runner : String) : Json.Value :=
    .object
      [ ("args", .array []), ("runner", .text runner), ("submitter", .text "s"),
        ("batch_script", .text "bs") ]
  .object
    [("description", .object
      [ ("directories", .array [.text "/b"]),
        ("glob-flavors", .array []),
        ("glob-submitter", .object []),
        ("builds", .object
          [("/b", .object
            [ ("prefix", .text "p"),
              ("items", .array [.text "a/x", .text "b/x"]),
              ("flavors", .object
                [ ("instrument-analysis", .object [("a/x", analysis), ("b/x", analysis)]),
                  ("builders", .object [("a/x", .text "/f"), ("b/x", .text "/f")]),
                  ("run", .object [("a/x", settings "/ra"), ("b/x", settings "/rb")]),
                  ("a/x", .array [.text "ct"]),
                  ("b/x", .array [.text "ct"]) ]) ])]) ])]

/-- The configuration of the document, in which both items are for the benchmark of that name. -/
def sharedNameConfiguration : Configuration :=
  let item (name runner : String) : Item :=
    { Item.plain name ⟨"/f", "/f", runner, "/an"⟩ (.listed []) with
      benchmark := "x"
      flavors := ["ct"]
      analyzerDirectory := "/ad"
      profileDirectory := "/ex"
      analysisFunctor := some "/an"
      submitter := some "s"
      batchScript := some "bs" }
  ⟨.legacy, [⟨"/b", some "p", [item "a/x" "/ra", item "b/x" "/rb"]⟩], [], .empty⟩

/-- A recorder with a run functor for each of the two items, in a directory of its own. -/
def sharedNameRecorder : Recorder where
  functors :=
    [ ((Path.key "/ra", "runner_x_ct"), ⟨"runner_x_ct", true, "a.sh", none⟩),
      ((Path.key "/rb", "runner_x_ct"), ⟨"runner_x_ct", true, "b.sh", none⟩) ]
  calls := []
  commands := []
  stdout := ""
  failing := []
  tree := ⟨[]⟩
  here := []

/-- The entries of the two items differ in their scripts only. -/
def sharedNameEntries : List RunEntry :=
  [⟨"/b", "x", "ct", "a.sh", []⟩, ⟨"/b", "x", "ct", "b.sh", []⟩]

/-- The entries of the document are labelled by its cells. -/
theorem labelsEntries_of_read_sharedName :
    Document.read .detect "/home" sharedNameDocument = .ok sharedNameConfiguration ∧
      (sharedNameConfiguration.runMatrix Recorder.facilities .empty
          (.start sharedNameRecorder)).1 = .ok sharedNameEntries ∧
      LabelsEntries sharedNameConfiguration sharedNameEntries := by
  have accepted :
      Document.read .detect "/home" sharedNameDocument = .ok sharedNameConfiguration := by
    decide +kernel
  have generated :
      (sharedNameConfiguration.runMatrix Recorder.facilities .empty
          (.start sharedNameRecorder)).1 = .ok sharedNameEntries := by
    decide +kernel
  exact ⟨accepted, generated, labelsEntries_of_read accepted generated⟩

/-- Two entries of an accepted document can have the same build, benchmark and flavor. -/
theorem not_nodup_map_entryLabel_sharedName :
    Document.read .detect "/home" sharedNameDocument = .ok sharedNameConfiguration ∧
      (sharedNameConfiguration.runMatrix Recorder.facilities .empty
          (.start sharedNameRecorder)).1 = .ok sharedNameEntries ∧
      ¬ (sharedNameEntries.map entryLabel).Nodup := by
  decide +kernel

end RunMatrix

end BenchmarkOrchestration
