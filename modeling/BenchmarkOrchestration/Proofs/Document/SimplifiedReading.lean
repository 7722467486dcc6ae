import BenchmarkOrchestration.Document.Simplified
import BenchmarkOrchestration.Proofs.Document.Results
import BenchmarkOrchestration.Proofs.Model.Settings
import BenchmarkOrchestration.Proofs.Model.UnrefusedHistory

namespace BenchmarkOrchestration.Document.Simplified

/-!
# What documents of the simplified schema say

A document has one section for each of its build keys: a directory, and the entries of items as they
stand under the key.  It is accepted exactly if it has sections, all entries are complete and no
directory gets two entries of one key, be it from one section or from several.  The configuration
then has the items of each directory as the sections list them.
-/

/--
The directory that a build key stands for.  A key behind a percent sign is a name and stands for
what the document lists under it; every other key stands for itself.
-/
inductive StandsFor
    (home : String)
    (tree : Json.Value) :
    String → String → Prop
  | itself
      {key : String}
      (unmarked : ∀ name, key ≠ "%" ++ name) :
      StandsFor home tree key key
  | named
      {name : String}
      {entries : List (String × Json.Value)}
      {path : Json.Value}
      (table : tree.get? "directories" = some (.object entries))
      (listed : entries.lookup name = some path) :
      StandsFor home tree ("%" ++ name) (expandHome home (textOf path))

/-- An entry has everything that an item needs. -/
structure CompleteEntry
    (key : String)
    (entry : Json.Value) :
    Prop where
  functors : (entry.get? "functors").isSome
  analyzer : (entry.get? "analyzer").isSome
  cubes : (entry.get? "cubes").isSome
  flavors : (entry.get? "flavors").isSome
  argmap :
    ∃ table, entry.get? "argmap" = some table ∧ ∃ mapping, argumentTable table key = .ok mapping

/-- An item is what the entry of its key describes. -/
structure DescribesItem
    (key : String)
    (entry : Json.Value)
    (item : Item) :
    Prop where
  name : item.name = key
  benchmark : item.benchmark = key
  build : (entry.get? "functors").map textOf = some item.functors.build
  clean : (entry.get? "functors").map textOf = some item.functors.clean
  run : (entry.get? "functors").map textOf = some item.functors.run
  analyze : (entry.get? "functors").map textOf = some item.functors.analyze
  analyzerDirectory : (entry.get? "analyzer").map textOf = some item.analyzerDirectory
  profileDirectory : (entry.get? "cubes").map textOf = some item.profileDirectory
  flavors : (entry.get? "flavors").map textsOf = some item.flavors
  mode : (entry.get? "mode").map (fun mode => FilterMode.ofText (textOf mode)) = item.mode
  arguments :
    ∃ table, entry.get? "argmap" = some table ∧
      ∃ mapping, argumentTable table key = .ok mapping ∧ item.arguments = .mapped mapping
  analysisFunctor : item.analysisFunctor = none
  slurmFunctor : item.slurmFunctor = none
  submitter : item.submitter = none
  batchScript : item.batchScript = none

/-- The entries of items that stand under one build key, with the directory of the key. -/
structure Section where
  directory : String
  entries : List (String × Json.Value)

/-- A field of the builds gives a section if its key stands for a directory and it has items. -/
structure GivesSection
    (home : String)
    (tree : Json.Value)
    (field : String × Json.Value)
    (part : Section) :
    Prop where
  directory : StandsFor home tree field.1 part.directory
  entries : field.2.get? "items" = some (.object part.entries)

/-- The sections of a document, one for each build key. -/
def HasSections
    (home : String)
    (tree : Json.Value)
    (sections : List Section) :
    Prop :=
  ∃ builds,
    tree.get? "builds" = some (.object builds) ∧
      List.Forall₂ (GivesSection home tree) builds sections

/-- The entries of all sections of a directory, section after section. -/
def entriesIn
    (directory : String)
    (sections : List Section) :
    List (String × Json.Value) :=
  (sections.filter fun part => part.directory = directory).flatMap Section.entries

/--
A document is acceptable if every build key stands for a directory and has items, every entry of an
item is complete, and no key of an item occurs twice for one directory.
-/
def Acceptable
    (home : String)
    (tree : Json.Value) :
    Prop :=
  ∃ sections,
    HasSections home tree sections ∧
      (∀ part ∈ sections, ∀ entry ∈ part.entries, CompleteEntry entry.1 entry.2) ∧
      ∀ directory, ((entriesIn directory sections).map Prod.fst).Nodup

/-- A configuration gathers sections if it has their items, and nothing else. -/
structure Gathers
    (config : Configuration)
    (sections : List Section) :
    Prop where
  directories :
    config.directories =
      firstSeen ((sections.filter fun part => part.entries ≠ []).map Section.directory)
  items :
    ∀ build ∈ config.builds,
      List.Forall₂ (fun entry item => DescribesItem entry.1 entry.2 item)
        (entriesIn build.directory sections) build.items
  labels : ∀ build ∈ config.builds, build.label = none
  schema : config.schema = .simplified
  globalFlavors : config.globalFlavors = []
  globalSubmitters : ∀ flavor, config.globalSubmitter? flavor = none

/-- A key refers to a name exactly if it is the name behind a percent sign. -/
theorem reference?_eq_some_iff
    {key name : String} :
    DirectoryNames.reference? key = some name ↔ key = "%" ++ name := by
  have characters : ("%" ++ name).toList = '%' :: name.toList := by
    rw [String.toList_append]
    rfl
  rw [DirectoryNames.reference?, ← String.toList_inj, characters]
  split
  · rename_i rest shape
    rw [shape, List.cons.injEq, Option.some.injEq, ← String.toList_inj, String.toList_ofList]
    simp
  · rename_i unmarked
    simp only [reduceCtorEq, false_iff]
    exact unmarked name.toList

/-- What a document lists under a name, with the home directory in place of a tilde. -/
theorem lookup_ofDocument_eq_some_iff
    {home : String}
    {tree : Json.Value}
    {name directory : String} :
    (DirectoryNames.ofDocument home tree).lookup name = some directory ↔
      ∃ entries path,
        tree.get? "directories" = some (.object entries) ∧ entries.lookup name = some path ∧
          expandHome home (textOf path) = directory := by
  have expanded (entries : List (String × Json.Value)) :=
    lookup_map_values (fun _ path => expandHome home (textOf path)) entries name
  rw [DirectoryNames.ofDocument]
  split
  · rename_i entries table
    change (entries.map fun entry => (entry.1, expandHome home (textOf entry.2))).lookup name =
      some directory ↔ _
    simp [table, expanded]
  · rename_i noTable
    simp only [List.lookup_nil, reduceCtorEq, false_iff]
    rintro ⟨entries, path, table, _⟩
    exact noTable entries table

/-- The names of a document lead from a key to the directory that it stands for. -/
theorem resolve_eq_ok_iff
    {home : String}
    {tree : Json.Value}
    {key directory : String} :
    (DirectoryNames.ofDocument home tree).resolve key = .ok directory ↔
      StandsFor home tree key directory := by
  rw [DirectoryNames.resolve]
  cases reference : DirectoryNames.reference? key with
  | none =>
      have unmarked : ∀ name, key ≠ "%" ++ name := by
        intro name marked
        rw [reference?_eq_some_iff.mpr marked] at reference
        cases reference
      dsimp only
      rw [Except.ok.injEq]
      constructor
      · rintro rfl
        exact .itself unmarked
      · rintro (_ | _)
        · rfl
        · exact absurd rfl (unmarked _)
  | some name =>
      have marked := reference?_eq_some_iff.mp reference
      dsimp only
      constructor
      · intro resolved
        split at resolved
        · rename_i path found
          cases resolved
          obtain ⟨entries, path, table, listed, rfl⟩ := lookup_ofDocument_eq_some_iff.mp found
          rw [marked]
          exact .named table listed
        · cases resolved
      · rintro (unmarked | ⟨table, listed⟩)
        · exact absurd marked (unmarked name)
        · rw [reference?_eq_some_iff.mpr rfl, Option.some.injEq] at reference
          subst reference
          have found : (DirectoryNames.ofDocument home tree).lookup _ = some _ :=
            lookup_ofDocument_eq_some_iff.mpr ⟨_, _, table, listed, rfl⟩
          rw [found]

/-- An item is read from an entry exactly if the entry describes it. -/
theorem item_eq_ok_iff
    {key : String}
    {entry : Json.Value}
    {result : Item} :
    item key entry = .ok result ↔ DescribesItem key entry result := by
  simp only [item, bind_eq_ok_iff, pure_eq_ok_iff, textField_eq_ok_iff, textsField_eq_ok_iff,
    field_eq_ok_iff]
  constructor
  · rintro ⟨functors, givesFunctors, table, givesTable, mapping, givesMapping, analyzer,
      givesAnalyzer, cubes, givesCubes, flavors, givesFlavors, rfl⟩
    exact {
      name := rfl
      benchmark := rfl
      build := givesFunctors
      clean := givesFunctors
      run := givesFunctors
      analyze := givesFunctors
      analyzerDirectory := givesAnalyzer
      profileDirectory := givesCubes
      flavors := givesFlavors
      mode := rfl
      arguments := ⟨table, givesTable, mapping, givesMapping, rfl⟩
      analysisFunctor := rfl
      slurmFunctor := rfl
      submitter := rfl
      batchScript := rfl }
  · intro describes
    obtain ⟨table, givesTable, mapping, givesMapping, arguments⟩ := describes.arguments
    have clean := Option.some.inj (describes.build.symm.trans describes.clean)
    have run := Option.some.inj (describes.build.symm.trans describes.run)
    have analyze := Option.some.inj (describes.build.symm.trans describes.analyze)
    refine ⟨_, describes.build, table, givesTable, mapping, givesMapping, _,
      describes.analyzerDirectory, _, describes.profileDirectory, _, describes.flavors, ?_⟩
    rcases result with ⟨_, _, _, _, _, ⟨_, _, _, _⟩, _, _, _, _, _, _⟩
    simp only [Item.plain, FunctorDirectories.uniform, Item.mk.injEq, FunctorDirectories.mk.injEq,
      true_and]
    exact ⟨describes.name.symm, describes.benchmark.symm, ⟨clean, run, analyze⟩, describes.mode,
      arguments.symm, describes.analysisFunctor.symm, describes.slurmFunctor.symm,
      describes.submitter.symm, describes.batchScript.symm⟩

/-- An entry describes an item exactly if it is complete. -/
theorem exists_describesItem_iff
    {key : String}
    {entry : Json.Value} :
    (∃ result, DescribesItem key entry result) ↔ CompleteEntry key entry := by
  constructor
  · rintro ⟨result, describes⟩
    obtain ⟨table, givesTable, mapping, givesMapping, _⟩ := describes.arguments
    exact {
      functors := exists_map_eq_some_iff.mp ⟨_, describes.build⟩
      analyzer := exists_map_eq_some_iff.mp ⟨_, describes.analyzerDirectory⟩
      cubes := exists_map_eq_some_iff.mp ⟨_, describes.profileDirectory⟩
      flavors := exists_map_eq_some_iff.mp ⟨_, describes.flavors⟩
      argmap := ⟨table, givesTable, mapping, givesMapping⟩ }
  · rintro ⟨functors, analyzer, cubes, flavors, table, givesTable, mapping, givesMapping⟩
    obtain ⟨functors, givesFunctors⟩ := exists_map_eq_some_iff.mpr functors
    obtain ⟨analyzer, givesAnalyzer⟩ := exists_map_eq_some_iff.mpr analyzer
    obtain ⟨cubes, givesCubes⟩ := exists_map_eq_some_iff.mpr cubes
    obtain ⟨flavors, givesFlavors⟩ := exists_map_eq_some_iff.mpr flavors
    simp only [← item_eq_ok_iff, item, bind_eq_ok_iff, pure_eq_ok_iff, textField_eq_ok_iff,
      textsField_eq_ok_iff, field_eq_ok_iff]
    exact ⟨_, functors, givesFunctors, table, givesTable, mapping, givesMapping, analyzer,
      givesAnalyzer, cubes, givesCubes, flavors, givesFlavors, rfl⟩

/-- All entries of some sections, each with the directory that it is for. -/
def placedEntries
    (sections : List Section) :
    List (String × String × Json.Value) :=
  sections.flatMap fun part => part.entries.map (Prod.mk part.directory)

/-- An item is placed where the entry that describes it is for. -/
def PlacedAs
    (entry : String × String × Json.Value)
    (placed : String × Item) :
    Prop :=
  placed.1 = entry.1 ∧ DescribesItem entry.2.1 entry.2.2 placed.2

/-- Adding the items of a section is reading all of its entries and adding what they describe. -/
theorem addItems_eq_ok_iff
    {directory : String}
    {entries : List (String × Json.Value)}
    {config result : Configuration} :
    addItems directory entries config = .ok result ↔
      ∃ placed,
        List.Forall₂ PlacedAs (entries.map (Prod.mk directory)) placed ∧
          config.performUntilRefused (placed.map Operation.adding) = .ok result := by
  induction entries generalizing config with
  | nil =>
      simp [addItems, Configuration.performUntilRefused]
  | cons first rest inductionHypothesis =>
      obtain ⟨key, entry⟩ := first
      simp only [addItems, bind_eq_ok_iff, item_eq_ok_iff, inductionHypothesis, List.map_cons,
        List.forall₂_cons_left_iff]
      constructor
      · rintro ⟨item, describes, added, fits, placed, read, performed⟩
        refine ⟨(directory, item) :: placed, ⟨_, _, ⟨rfl, describes⟩, read, rfl⟩, ?_⟩
        rw [List.map_cons, Operation.adding, Configuration.performUntilRefused_addItem,
          bind_eq_ok_iff]
        exact ⟨added, fits, performed⟩
      · rintro ⟨_, ⟨⟨_, item⟩, placed, ⟨rfl, describes⟩, read, rfl⟩, performed⟩
        rw [List.map_cons, Operation.adding, Configuration.performUntilRefused_addItem,
          bind_eq_ok_iff] at performed
        obtain ⟨added, fits, performed⟩ := performed
        exact ⟨item, describes, added, fits, placed, read, performed⟩

/-- Adding builds is reading all of their sections and adding what the entries describe. -/
theorem addBuilds_eq_ok_iff
    {home : String}
    {tree : Json.Value}
    {builds : List (String × Json.Value)}
    {config result : Configuration} :
    addBuilds (.ofDocument home tree) builds config = .ok result ↔
      ∃ sections placed,
        List.Forall₂ (GivesSection home tree) builds sections ∧
          List.Forall₂ PlacedAs (placedEntries sections) placed ∧
            config.performUntilRefused (placed.map Operation.adding) = .ok result := by
  induction builds generalizing config with
  | nil =>
      simp [addBuilds, placedEntries, Configuration.performUntilRefused]
  | cons first rest inductionHypothesis =>
      obtain ⟨key, build⟩ := first
      simp only [addBuilds, bind_eq_ok_iff, resolve_eq_ok_iff, objectField_eq_ok_iff,
        addItems_eq_ok_iff, inductionHypothesis, List.forall₂_cons_left_iff]
      constructor
      · rintro ⟨directory, standsFor, entries, has, between, ⟨here, readHere, performedHere⟩,
          sections, later, gives, readLater, performedLater⟩
        refine ⟨⟨directory, entries⟩ :: sections, here ++ later,
          ⟨_, _, ⟨standsFor, has⟩, gives, rfl⟩, ?_, ?_⟩
        · exact List.rel_append readHere readLater
        · rw [List.map_append, Configuration.performUntilRefused_append, bind_eq_ok_iff]
          exact ⟨between, performedHere, performedLater⟩
      · rintro ⟨_, placed, ⟨part, sections, ⟨standsFor, has⟩, gives, rfl⟩, read, performed⟩
        rw [placedEntries, List.flatMap_cons, forall₂_append_left_iff] at read
        obtain ⟨here, later, readHere, readLater, rfl⟩ := read
        rw [List.map_append, Configuration.performUntilRefused_append, bind_eq_ok_iff] at performed
        obtain ⟨between, performedHere, performedLater⟩ := performed
        exact ⟨part.directory, standsFor, part.entries, has, between,
          ⟨here, readHere, performedHere⟩, sections, later, gives, readLater, performedLater⟩

/-- A document is read by adding what the entries of its sections describe, one after the other. -/
theorem configuration_eq_ok_iff
    {home : String}
    {tree : Json.Value}
    {result : Configuration} :
    configuration home tree = .ok result ↔
      ∃ sections placed,
        HasSections home tree sections ∧
          List.Forall₂ PlacedAs (placedEntries sections) placed ∧
            (Configuration.empty .simplified).performUntilRefused (placed.map Operation.adding) =
              .ok result := by
  simp only [configuration, bind_eq_ok_iff, objectField_eq_ok_iff, addBuilds_eq_ok_iff,
    HasSections]
  constructor
  · rintro ⟨builds, has, sections, placed, gives, read, performed⟩
    exact ⟨sections, placed, ⟨builds, has, gives⟩, read, performed⟩
  · rintro ⟨sections, placed, ⟨builds, has, gives⟩, read, performed⟩
    exact ⟨builds, has, sections, placed, gives, read, performed⟩

/-- The entries for a directory are those of its sections. -/
theorem map_filter_placedEntries
    (directory : String)
    (sections : List Section) :
    ((placedEntries sections).filter fun entry => entry.1 = directory).map Prod.snd =
      entriesIn directory sections := by
  induction sections with
  | nil =>
      rfl
  | cons part rest inductionHypothesis =>
      rw [placedEntries, List.flatMap_cons, ← placedEntries, List.filter_append, List.map_append,
        inductionHypothesis, entriesIn, entriesIn]
      by_cases here : part.directory = directory
      · simp [here, List.filter_map, Function.comp_def]
      · simp [here, List.filter_map, Function.comp_def]

/-- The items that are placed in a directory are described by the entries for it. -/
theorem forall₂_itemsIn
    {sections : List Section}
    {placed : List (String × Item)}
    (read : List.Forall₂ PlacedAs (placedEntries sections) placed)
    (directory : String) :
    List.Forall₂ (fun entry item => DescribesItem entry.1 entry.2 item)
      (entriesIn directory sections) (itemsIn directory placed) := by
  rw [← map_filter_placedEntries, itemsIn, List.forall₂_map_left_iff, List.forall₂_map_right_iff]
  have sameDirectory :
      ∀ entry placed, PlacedAs entry placed →
        (decide (entry.1 = directory) = true ↔ decide (placed.1 = directory) = true) := by
    intro entry placed isPlaced
    rw [isPlaced.1]
  exact (List.rel_filter sameDirectory read).imp fun entry placed isPlaced => isPlaced.2

/-- The directories of placed items are those of the sections that are not empty. -/
theorem firstSeen_map_fst_placed
    {sections : List Section}
    {placed : List (String × Item)}
    (read : List.Forall₂ PlacedAs (placedEntries sections) placed) :
    firstSeen (placed.map Prod.fst) =
      firstSeen ((sections.filter fun part => part.entries ≠ []).map Section.directory) := by
  have sameDirectories : (placedEntries sections).map Prod.fst = placed.map Prod.fst :=
    map_eq_map_of_forall₂ read fun entry placed isPlaced => isPlaced.1.symm
  have runs :
      (placedEntries sections).map Prod.fst =
        sections.flatMap fun part => List.replicate part.entries.length part.directory := by
    rw [placedEntries, List.map_flatMap]
    refine List.flatMap_congr fun part _ => ?_
    rw [List.map_map]
    exact List.map_const'
  rw [← sameDirectories, runs, firstSeen_flatMap_replicate]
  simp only [List.length_pos_iff]

/-- What a document places is accepted exactly if no directory gets two entries of one key. -/
theorem exists_performUntilRefused_placed_iff
    {sections : List Section}
    {placed : List (String × Item)}
    (read : List.Forall₂ PlacedAs (placedEntries sections) placed) :
    (∃ result,
        (Configuration.empty .simplified).performUntilRefused (placed.map Operation.adding) =
          .ok result) ↔
      ∀ directory, ((entriesIn directory sections).map Prod.fst).Nodup := by
  rw [(Configuration.records_empty .simplified).exists_performUntilRefused_iff,
    Operation.filterMap_addition?_map_adding, List.nil_append]
  refine forall_congr' fun directory => ?_
  have sameKeys :=
    map_eq_map_of_forall₂ (f := Prod.fst) (g := Item.name) (forall₂_itemsIn read directory)
      fun entry item describes => describes.name.symm
  rw [sameKeys]

/-- Every entry of the sections describes an item exactly if every entry is complete. -/
theorem exists_placed_iff
    {sections : List Section} :
    (∃ placed, List.Forall₂ PlacedAs (placedEntries sections) placed) ↔
      ∀ part ∈ sections, ∀ entry ∈ part.entries, CompleteEntry entry.1 entry.2 := by
  have each :
      ∀ entry, (∃ placed, PlacedAs entry placed) ↔ CompleteEntry entry.2.1 entry.2.2 := by
    intro entry
    rw [← exists_describesItem_iff]
    constructor
    · rintro ⟨placed, _, describes⟩
      exact ⟨placed.2, describes⟩
    · rintro ⟨item, describes⟩
      exact ⟨(entry.1, item), rfl, describes⟩
  simp only [exists_forall₂_iff, each, placedEntries, List.mem_flatMap, List.mem_map,
    forall_exists_index, and_imp]
  constructor
  · intro complete part partMember entry entryMember
    exact complete _ part partMember entry entryMember rfl
  · rintro complete _ part partMember entry entryMember rfl
    exact complete part partMember entry entryMember

/-- A configuration that is read gathers the sections of its document. -/
theorem gathers_of_placed
    {sections : List Section}
    {placed : List (String × Item)}
    {result : Configuration}
    (read : List.Forall₂ PlacedAs (placedEntries sections) placed)
    (performed :
      (Configuration.empty .simplified).performUntilRefused (placed.map Operation.adding) =
        .ok result) :
    Gathers result sections := by
  have records :=
    (Configuration.records_empty .simplified).performUntilRefused performed
  rw [Operation.filterMap_addition?_map_adding, Operation.filterMap_directory?_map_adding,
    List.nil_append, List.nil_append] at records
  have whole := Configuration.eq_performAll_of_performUntilRefused performed
  -- Sections only add items: labels, flavors and submitters are what they were in the beginning.
  have nothingSet :
      ∀ {α : Type} (set? : Operation → Option α), (∀ placed, set? (.adding placed) = none) →
        (placed.map Operation.adding).filterMap set? = [] := by
    intro α set? never
    rw [List.filterMap_map, List.filterMap_eq_nil_iff]
    intro entry _
    exact never entry
  constructor
  · rw [records.directories]
    exact firstSeen_map_fst_placed read
  · intro build member
    rw [records.items_of_mem member]
    exact forall₂_itemsIn read build.directory
  · intro build member
    rw [← Configuration.labelOf_directory records.distinct member, whole,
      Configuration.labelOf_performAll, nothingSet _ fun _ => rfl]
    rfl
  · rw [whole, Configuration.schema_performAll]
    rfl
  · have flavors :=
      Configuration.globalFlavors_performAll (.empty .simplified) (placed.map Operation.adding)
    rw [nothingSet _ fun _ => rfl, ← whole] at flavors
    exact Option.some.inj flavors
  · intro flavor
    rw [whole, Configuration.globalSubmitter?_performAll, nothingSet _ fun _ => rfl]
    rfl

/-- In the simplified schema the benchmark of an item is its name. -/
theorem benchmark_eq_name
    {home : String}
    {tree : Json.Value}
    {config : Configuration}
    (accepted : configuration home tree = .ok config)
    {build : Build}
    (buildMember : build ∈ config.builds)
    {item : Item}
    (itemMember : item ∈ build.items) :
    item.benchmark = item.name := by
  obtain ⟨sections, placed, _, read, performed⟩ := configuration_eq_ok_iff.mp accepted
  have described := (gathers_of_placed read performed).items build buildMember
  obtain ⟨entry, _, describes⟩ := exists_of_mem_read described itemMember
  rw [describes.benchmark, describes.name]

/--
A document of the simplified schema is accepted exactly if it is acceptable, and its configuration
then gathers its sections.
-/
theorem configuration_gathers_sections
    (home : String)
    (tree : Json.Value) :
    ((∃ config, configuration home tree = .ok config) ↔ Acceptable home tree) ∧
      ∀ config, configuration home tree = .ok config →
        ∃ sections, HasSections home tree sections ∧ Gathers config sections := by
  constructor
  · simp only [configuration_eq_ok_iff]
    constructor
    · rintro ⟨config, sections, placed, has, read, performed⟩
      exact ⟨sections, has, exists_placed_iff.mp ⟨placed, read⟩,
        (exists_performUntilRefused_placed_iff read).mp ⟨config, performed⟩⟩
    · rintro ⟨sections, has, complete, distinct⟩
      obtain ⟨placed, read⟩ := exists_placed_iff.mpr complete
      obtain ⟨config, performed⟩ := (exists_performUntilRefused_placed_iff read).mpr distinct
      exact ⟨config, sections, placed, has, read, performed⟩
  · intro config accepted
    obtain ⟨sections, placed, has, read, performed⟩ := configuration_eq_ok_iff.mp accepted
    exact ⟨sections, has, gathers_of_placed read performed⟩

/-- A directory and its name lead to one build, even with a section of another one between them. -/
example :
    let entry : Json.Value :=
      .object
        [ ("functors", .text "/f"), ("argmap", .object [("mapper", .text "linear")]),
          ("analyzer", .text "/a"), ("cubes", .text "/c"), ("flavors", .array []) ]
    let part (key : String) : Json.Value := .object [("items", .object [(key, entry)])]
    let tree : Json.Value :=
      .object
        [ ("directories", .object [("a", .text "/x")]),
          ("builds", .object [("%a", part "k"), ("/y", part "k"), ("/x", part "l")]) ]
    (configuration "/home" tree).toOption.map
        (fun config =>
          config.builds.map fun build => (build.directory, build.items.map Item.name)) =
      some [("/x", ["k", "l"]), ("/y", ["k"])] := by
  decide +kernel

end BenchmarkOrchestration.Document.Simplified
