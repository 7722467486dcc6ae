import BenchmarkOrchestration.Proofs.Document.LegacyAgreement
import BenchmarkOrchestration.Proofs.Document.LegacyAnswers
import BenchmarkOrchestration.Proofs.Model.Settings
import BenchmarkOrchestration.Proofs.Model.UnrefusedHistory

namespace BenchmarkOrchestration.Document.Legacy

/-!
# What documents of the legacy schema say

A document lists directories, the items of each directory and global flavors, and has tables with an
entry for everything that it lists.  It is accepted exactly if no entry is missing and no directory
visits an item twice.  The configuration then has the listed builds, and their items are what the
tables say.
-/

/-- The builds of a document have everything that a directory and its listed items need. -/
structure CompleteBuild
    (builds : List (String × Json.Value))
    (directory : String) :
    Prop where
  label : (valueAt? (.object builds) [directory, "prefix"]).isSome
  items :
    ∃ tables keys, valueAt? (.object builds) [directory, "flavors"] = some tables ∧
      (valueAt? (.object builds) [directory, "items"]).map textsOf = some keys ∧
      ∀ key ∈ keys, CompleteItem tables key

/-- A build is what the builds of a document say about its directory. -/
structure DescribesBuild
    (builds : List (String × Json.Value))
    (directory : String)
    (build : Build) :
    Prop where
  isFor : build.directory = directory
  label :
    ∃ label, (valueAt? (.object builds) [directory, "prefix"]).map textOf = some label ∧
      build.label = some label
  items :
    ∃ tables keys, valueAt? (.object builds) [directory, "flavors"] = some tables ∧
      (valueAt? (.object builds) [directory, "items"]).map textsOf = some keys ∧
      List.Forall₂ (DescribesItem tables) keys build.items

/-- What a document lists, and where the entries for it are found. -/
structure Listing where
  directories : List String
  flavors : List String
  submitters : Json.Value
  builds : List (String × Json.Value)

/-- The listing of a document is what its description holds. -/
structure HasListing
    (tree : Json.Value)
    (listing : Listing) :
    Prop where
  directories :
    (valueAt? tree ["description", "directories"]).map textsOf = some listing.directories
  flavors : (valueAt? tree ["description", "glob-flavors"]).map textsOf = some listing.flavors
  submitters : valueAt? tree ["description", "glob-submitter"] = some listing.submitters
  builds : valueAt? tree ["description", "builds"] = some (.object listing.builds)

/-- The keys that a document lists for a directory. -/
def keysOf
    (builds : List (String × Json.Value))
    (directory : String) :
    List String :=
  ((valueAt? (.object builds) [directory, "items"]).map textsOf).getD []

/-- The items that are visited, directory after directory. -/
def visits
    (listing : Listing) :
    List (String × String) :=
  listing.directories.flatMap fun directory =>
    (keysOf listing.builds directory).map (Prod.mk directory)

/--
A document is acceptable if it has a listing, there is a submitter for every listed flavor and a
complete entry for every listed directory, and no item of a directory is visited twice.
-/
def Acceptable
    (tree : Json.Value) :
    Prop :=
  ∃ listing,
    HasListing tree listing ∧
      (∀ flavor ∈ listing.flavors, (listing.submitters.get? flavor).isSome) ∧
      (∀ directory ∈ listing.directories, CompleteBuild listing.builds directory) ∧
      (visits listing).Nodup

/-- The flavors that tables hold for a key. -/
def flavorsOf
    (tables : Json.Value)
    (key : String) :
    List String :=
  ((tables.get? key).map textsOf).getD []

/-- A build is found under its directory, and all that is asked about it is what is described. -/
structure AnswersForBuild
    (config : Configuration)
    (builds : List (String × Json.Value))
    (directory : String) :
    Prop where
  found : ∃ build, config.build directory = .ok build ∧ DescribesBuild builds directory build
  label :
    ∃ label, (valueAt? (.object builds) [directory, "prefix"]).map textOf = some label ∧
      config.label directory = .ok (some label)
  items :
    ∃ tables keys, valueAt? (.object builds) [directory, "flavors"] = some tables ∧
      (valueAt? (.object builds) [directory, "items"]).map textsOf = some keys ∧
      config.itemNames directory = .ok keys ∧
      config.buildFlavors directory = .ok (firstSeen (keys.flatMap (flavorsOf tables))) ∧
      ∀ key ∈ keys, ∃ item, AnswersForItem config directory tables key item

/--
A configuration follows a listing if it has the builds of the listed directories as the document
describes them, the listed flavors and the submitters of these flavors, and if whatever is asked
about a listed directory or item is answered with what the document holds for it.
-/
structure Follows
    (config : Configuration)
    (listing : Listing) :
    Prop where
  directories : config.directories = firstSeen listing.directories
  builds : ∀ build ∈ config.builds, DescribesBuild listing.builds build.directory build
  found :
    ∀ build ∈ config.builds, ∀ item ∈ build.items,
      config.item build.directory item.name = .ok item ∧
        item.analysisFunctorOrDirectory = item.functors.analyze
  answers : ∀ directory ∈ listing.directories, AnswersForBuild config listing.builds directory
  globalFlavors : config.globalFlavors = listing.flavors
  submitters :
    ∀ flavor ∈ listing.flavors,
      ∃ submitter, (listing.submitters.get? flavor).map textOf = some submitter ∧
        config.globalSubmitter? flavor = some submitter
  noOtherSubmitters :
    ∀ flavor, flavor ∉ listing.flavors → config.globalSubmitter? flavor = none
  schema : config.schema = .legacy

/-- Adding the items of a build is reading all of them and adding what the tables describe. -/
theorem addItems_eq_ok_iff
    {directory : String}
    {tables : Json.Value}
    {keys : List String}
    {config result : Configuration} :
    addItems directory tables keys config = .ok result ↔
      ∃ items,
        List.Forall₂ (DescribesItem tables) keys items ∧
          config.performUntilRefused (items.map (Operation.addItem directory)) = .ok result := by
  induction keys generalizing config with
  | nil =>
      simp [addItems, Configuration.performUntilRefused]
  | cons key rest inductionHypothesis =>
      simp only [addItems, bind_eq_ok_iff, item_eq_ok_iff, inductionHypothesis,
        List.forall₂_cons_left_iff]
      constructor
      · rintro ⟨item, describes, added, fits, items, read, performed⟩
        refine ⟨item :: items, ⟨_, _, describes, read, rfl⟩, ?_⟩
        rw [List.map_cons, Configuration.performUntilRefused_addItem, bind_eq_ok_iff]
        exact ⟨added, fits, performed⟩
      · rintro ⟨_, ⟨item, items, describes, read, rfl⟩, performed⟩
        rw [List.map_cons, Configuration.performUntilRefused_addItem, bind_eq_ok_iff] at performed
        obtain ⟨added, fits, performed⟩ := performed
        exact ⟨item, describes, added, fits, items, read, performed⟩

/-- A build is entered by adding its directory with its label and then its items. -/
def entering
    (build : Build) :
    List Operation :=
  .addBuild build.directory build.label :: build.items.map (Operation.addItem build.directory)

/-- Adding the listed builds is reading all of them and entering what the document describes. -/
theorem addBuilds_eq_ok_iff
    {builds : List (String × Json.Value)}
    {directories : List String}
    {config result : Configuration} :
    addBuilds builds directories config = .ok result ↔
      ∃ read,
        List.Forall₂ (DescribesBuild builds) directories read ∧
          config.performUntilRefused (read.flatMap entering) = .ok result := by
  induction directories generalizing config with
  | nil =>
      simp [addBuilds, Configuration.performUntilRefused]
  | cons directory rest inductionHypothesis =>
      simp only [addBuilds, bind_eq_ok_iff, field_eq_ok_iff, textField_eq_ok_iff,
        textsField_eq_ok_iff, addItems_eq_ok_iff, inductionHypothesis, List.forall₂_cons_left_iff]
      constructor
      · rintro ⟨tree, givesTree, label, givesLabel, tables, givesTables, keys, givesKeys, between,
          ⟨items, readHere, performedHere⟩, read, readLater, performedLater⟩
        have isField :
            ∀ name, valueAt? (.object builds) [directory, name] = tree.get? name := by
          intro name
          rw [valueAt?_cons givesTree, valueAt?_singleton]
        refine ⟨⟨directory, some label, items⟩ :: read, ⟨_, _, ?_, readLater, rfl⟩, ?_⟩
        · exact {
            isFor := rfl
            label := ⟨label, (congrArg _ (isField "prefix")).trans givesLabel, rfl⟩
            items :=
              ⟨tables, keys, (isField "flavors").trans givesTables,
                (congrArg _ (isField "items")).trans givesKeys, readHere⟩ }
        · rw [List.flatMap_cons, Configuration.performUntilRefused_append, bind_eq_ok_iff]
          exact ⟨between, performedHere, performedLater⟩
      · rintro ⟨_, ⟨build, read, describes, readLater, rfl⟩, performed⟩
        rw [List.flatMap_cons, Configuration.performUntilRefused_append,
          bind_eq_ok_iff] at performed
        obtain ⟨between, performedHere, performedLater⟩ := performed
        obtain ⟨rfl, ⟨label, ofLabel, isLabel⟩, tables, keys, ofTables, ofKeys, readHere⟩ :=
          describes
        obtain ⟨tree, givesTree, givesLabel⟩ := map_valueAt?_cons_eq_some_iff.mp ofLabel
        simp only [valueAt?_cons givesTree, valueAt?_singleton] at ofTables ofKeys
        rw [valueAt?_singleton] at givesLabel
        rw [entering, isLabel] at performedHere
        exact ⟨tree, givesTree, label, givesLabel, tables, ofTables, keys, ofKeys, between,
          ⟨build.items, readHere, performedHere⟩, read, readLater, performedLater⟩

/-- A setting gives a flavor the submitter that the document holds for it. -/
def SetsSubmitter
    (submitters : Json.Value)
    (flavor : String)
    (setting : String × String) :
    Prop :=
  setting.1 = flavor ∧ (submitters.get? flavor).map textOf = some setting.2

/-- The operation that sets the submitter of a flavor. -/
def setting
    (setting : String × String) :
    Operation :=
  .setGlobalSubmitter setting.1 setting.2

/-- Setting submitters is reading all of them and setting what the document holds. -/
theorem addSubmitters_eq_ok_iff
    {submitters : Json.Value}
    {flavors : List String}
    {config result : Configuration} :
    addSubmitters submitters flavors config = .ok result ↔
      ∃ settings,
        List.Forall₂ (SetsSubmitter submitters) flavors settings ∧
          config.performUntilRefused (settings.map setting) = .ok result := by
  induction flavors generalizing config with
  | nil =>
      simp [addSubmitters, Configuration.performUntilRefused]
  | cons flavor rest inductionHypothesis =>
      simp only [addSubmitters, bind_eq_ok_iff, textField_eq_ok_iff, inductionHypothesis,
        List.forall₂_cons_left_iff]
      constructor
      · rintro ⟨submitter, givesSubmitter, settings, read, performed⟩
        exact ⟨(flavor, submitter) :: settings, ⟨_, _, ⟨rfl, givesSubmitter⟩, read, rfl⟩, performed⟩
      · rintro ⟨_, ⟨⟨_, submitter⟩, settings, ⟨rfl, givesSubmitter⟩, read, rfl⟩, performed⟩
        exact ⟨submitter, givesSubmitter, settings, read, performed⟩

/-- The operations that lead to the configuration of a document. -/
def history
    (settings : List (String × String))
    (flavors : List String)
    (read : List Build) :
    List Operation :=
  settings.map setting ++ .setGlobalFlavors flavors :: read.flatMap entering

/-- A document is read by setting what it lists and entering what it describes. -/
theorem configuration_eq_ok_iff
    {tree : Json.Value}
    {result : Configuration} :
    configuration tree = .ok result ↔
      ∃ listing settings read,
        HasListing tree listing ∧
          List.Forall₂ (SetsSubmitter listing.submitters) listing.flavors settings ∧
          List.Forall₂ (DescribesBuild listing.builds) listing.directories read ∧
          (Configuration.empty .legacy).performUntilRefused
            (history settings listing.flavors read) = .ok result := by
  simp only [configuration, bind_eq_ok_iff, field_eq_ok_iff, textsField_eq_ok_iff,
    objectField_eq_ok_iff, addSubmitters_eq_ok_iff, addBuilds_eq_ok_iff, history,
    Configuration.performUntilRefused_append]
  constructor
  · rintro ⟨description, gives, directories, givesDirectories, flavors, givesFlavors, submitters,
      givesSubmitters, between, ⟨settings, readSettings, set⟩, builds, givesBuilds, read,
      readBuilds, performed⟩
    have isField : ∀ name, valueAt? tree ["description", name] = description.get? name := by
      intro name
      rw [valueAt?_cons gives, valueAt?_singleton]
    refine ⟨⟨directories, flavors, submitters, builds⟩, settings, read, ?_, readSettings,
      readBuilds, between, set, performed⟩
    exact {
      directories := (congrArg _ (isField "directories")).trans givesDirectories
      flavors := (congrArg _ (isField "glob-flavors")).trans givesFlavors
      submitters := (isField "glob-submitter").trans givesSubmitters
      builds := (isField "builds").trans givesBuilds }
  · rintro ⟨listing, settings, read, has, readSettings, readBuilds, between, set, performed⟩
    obtain ⟨description, gives, directories⟩ := map_valueAt?_cons_eq_some_iff.mp has.directories
    have flavors := has.flavors
    have submitters := has.submitters
    have builds := has.builds
    simp only [valueAt?_cons gives, valueAt?_singleton] at directories flavors submitters builds
    exact ⟨description, gives, _, directories, _, flavors, _, submitters, between,
      ⟨settings, readSettings, set⟩, _, builds, read, readBuilds, performed⟩

/-- A document describes one build of a directory at most. -/
theorem describesBuild_rightUnique
    (builds : List (String × Json.Value)) :
    Relator.RightUnique (DescribesBuild builds) := by
  intro directory first second describesFirst describesSecond
  obtain ⟨isFor, ⟨label, givesLabel, isLabel⟩, tables, keys, givesTables, givesKeys, items⟩ :=
    describesFirst
  obtain ⟨otherIsFor, ⟨otherLabel, givesOtherLabel, isOtherLabel⟩, otherTables, otherKeys,
    givesOtherTables, givesOtherKeys, otherItems⟩ := describesSecond
  obtain rfl := Option.some.inj (givesLabel.symm.trans givesOtherLabel)
  obtain rfl := Option.some.inj (givesTables.symm.trans givesOtherTables)
  obtain rfl := Option.some.inj (givesKeys.symm.trans givesOtherKeys)
  have sameItems := List.right_unique_forall₂' (describesItem_rightUnique tables) items otherItems
  rcases first with ⟨_, _, _⟩
  rcases second with ⟨_, _, _⟩
  rw [Build.mk.injEq]
  exact ⟨isFor.trans otherIsFor.symm, isLabel.trans isOtherLabel.symm, sameItems⟩

section Read

variable
  {builds : List (String × Json.Value)}
  {directories : List String}
  {read : List Build}

/-- Every build that is read is described by the document. -/
theorem describesBuild_of_mem
    (describes : List.Forall₂ (DescribesBuild builds) directories read)
    {build : Build}
    (member : build ∈ read) :
    DescribesBuild builds build.directory build := by
  obtain ⟨directory, _, described⟩ := exists_of_mem_read describes member
  rw [described.isFor]
  exact described

/-- What is read for one directory is the same build again and again. -/
theorem filter_directory_eq_replicate
    (describes : List.Forall₂ (DescribesBuild builds) directories read)
    {build : Build}
    (member : build ∈ read) :
    ∃ times,
      (read.filter fun other => other.directory = build.directory) =
        List.replicate (times + 1) build := by
  have same :
      ∀ other ∈ read.filter fun other => other.directory = build.directory, other = build := by
    intro other otherMember
    rw [List.mem_filter, decide_eq_true_eq] at otherMember
    have described := describesBuild_of_mem describes otherMember.1
    rw [otherMember.2] at described
    exact describesBuild_rightUnique builds described (describesBuild_of_mem describes member)
  have alike := List.eq_replicate_of_mem same
  have found : build ∈ read.filter fun other => other.directory = build.directory :=
    List.mem_filter.mpr ⟨member, decide_eq_true rfl⟩
  obtain ⟨times, count⟩ := Nat.exists_eq_add_of_lt (List.length_pos_of_mem found)
  rw [Nat.zero_add] at count
  rw [count] at alike
  exact ⟨times, alike⟩

/-- The directories that are read are those that are listed. -/
theorem map_directory_read
    (describes : List.Forall₂ (DescribesBuild builds) directories read) :
    read.map Build.directory = directories := by
  have same := map_eq_map_of_forall₂ (f := id) (g := Build.directory) describes
    fun directory build described => described.isFor.symm
  rw [← same, List.map_id]

end Read

/-- The items of some builds, with their directories. -/
def placed
    (read : List Build) :
    List (String × Item) :=
  read.flatMap fun build => build.items.map (Prod.mk build.directory)

/-- The items that are placed in a directory are those of its builds. -/
theorem itemsIn_placed
    (directory : String)
    (read : List Build) :
    itemsIn directory (placed read) =
      (read.filter fun build => build.directory = directory).flatMap Build.items := by
  induction read with
  | nil =>
      rfl
  | cons build rest inductionHypothesis =>
      rw [itemsIn] at inductionHypothesis
      rw [placed, List.flatMap_cons, ← placed, itemsIn, List.filter_append, List.map_append,
        inductionHypothesis]
      by_cases here : build.directory = directory
      · simp [here, List.filter_map, Function.comp_def]
      · simp [here, List.filter_map, Function.comp_def]

section Contributions

variable
  (settings : List (String × String))
  (flavors : List String)
  (read : List Build)

/-- A history contributes by its settings, the flavors and the builds, in this order. -/
theorem filterMap_history
    (contribution? : Operation → Option α) :
    (history settings flavors read).filterMap contribution? =
      settings.filterMap (fun entry => contribution? (setting entry)) ++
        ((contribution? (.setGlobalFlavors flavors)).toList ++
          read.flatMap fun build =>
            (contribution? (.addBuild build.directory build.label)).toList ++
              build.items.filterMap fun item => contribution? (.addItem build.directory item)) := by
  rw [history, List.filterMap_append, List.filterMap_map, Configuration.filterMap_cons_eq_append,
    List.filterMap_flatMap]
  simp only [entering, Configuration.filterMap_cons_eq_append, List.filterMap_map]
  rfl

/-- A history adds the items of the builds that are entered. -/
theorem filterMap_addition?_history :
    (history settings flavors read).filterMap Operation.addition? = placed read := by
  simp [filterMap_history, Operation.addition?, setting, placed]

/-- A history registers the directory of a build that is entered, and again for each item. -/
theorem filterMap_directory?_history :
    (history settings flavors read).filterMap Operation.directory? =
      read.flatMap fun build => List.replicate (build.items.length + 1) build.directory := by
  simp [filterMap_history, Operation.directory?, setting, List.replicate_succ]

/-- A history sets the label of a directory whenever a build of it is entered. -/
theorem filterMap_label?_history
    (directory : String) :
    (history settings flavors read).filterMap (Operation.label? directory) =
      (read.filter fun build => build.directory = directory).filterMap Build.label := by
  rw [filterMap_history, List.filterMap_filter, List.filterMap_eq_flatMap_toList _ read]
  simp [Operation.label?, setting]

/-- A history sets the global flavors once. -/
theorem filterMap_globalFlavors?_history :
    (history settings flavors read).filterMap Operation.globalFlavors? = [flavors] := by
  simp [filterMap_history, Operation.globalFlavors?, setting]

/-- A history sets the submitters of its settings. -/
theorem filterMap_submitter?_history
    (flavor : String) :
    (history settings flavors read).filterMap (Operation.submitter? flavor) =
      settings.filterMap fun entry => if flavor = entry.1 then some entry.2 else none := by
  simp [filterMap_history, Operation.submitter?, setting]

end Contributions

/-- Repeating a list with distinct elements as a part of itself adds nothing to it. -/
theorem flatten_replicate_succ_of_nodup
    {times : Nat}
    {items : List Item}
    (distinct : ((List.replicate (times + 1) items).flatten.map Item.name).Nodup) :
    (List.replicate (times + 1) items).flatten = items := by
  rw [List.replicate_succ, List.flatten_cons] at distinct ⊢
  cases times with
  | zero =>
      exact List.append_nil items
  | succ times =>
      rw [List.replicate_succ, List.flatten_cons, List.map_append, List.nodup_append,
        List.map_append] at distinct
      have none : items = [] := by
        cases items with
        | nil =>
            rfl
        | cons item rest =>
            have first : item.name ∈ (item :: rest).map Item.name := List.mem_cons_self
            exact absurd rfl (distinct.2.2 _ first _ (List.mem_append_left _ first))
      subst none
      simp

section Settings

variable
  {submitters : Json.Value}
  {flavors : List String}
  {settings : List (String × String)}

/-- A flavor for which there is a setting gets the submitter that the document holds for it. -/
theorem exists_submitter_of_mem
    (read : List.Forall₂ (SetsSubmitter submitters) flavors settings)
    {flavor : String}
    (member : flavor ∈ flavors) :
    ∃ submitter, (submitters.get? flavor).map textOf = some submitter ∧
      (settings.filterMap fun entry =>
        if flavor = entry.1 then some entry.2 else none).getLast? = some submitter := by
  have sameFlavors := map_eq_map_of_forall₂ (f := id) (g := Prod.fst) read
    fun flavor entry sets => sets.1.symm
  rw [List.map_id] at sameFlavors
  rw [sameFlavors] at member
  obtain ⟨entry, entryMember, rfl⟩ := List.mem_map.mp member
  -- The last setting for the flavor counts, and every one of them has what the document holds.
  cases last : (settings.filterMap fun other =>
      if entry.1 = other.1 then some other.2 else none).getLast? with
  | none =>
      rw [List.getLast?_eq_none_iff, List.filterMap_eq_nil_iff] at last
      have unset := last entry entryMember
      rw [if_pos rfl] at unset
      cases unset
  | some submitter =>
      obtain ⟨other, otherMember, set⟩ := List.mem_filterMap.mp (List.mem_of_getLast? last)
      obtain ⟨flavor, _, isFor, gives⟩ := exists_of_mem_read read otherMember
      split at set
      · rename_i same
        cases set
        rw [same, isFor]
        exact ⟨other.2, gives, rfl⟩
      · cases set

/-- A flavor without a setting gets no submitter. -/
theorem filterMap_settings_eq_nil
    (read : List.Forall₂ (SetsSubmitter submitters) flavors settings)
    {flavor : String}
    (absent : flavor ∉ flavors) :
    (settings.filterMap fun entry => if flavor = entry.1 then some entry.2 else none) = [] := by
  rw [List.filterMap_eq_nil_iff]
  intro entry member
  obtain ⟨listedFlavor, listedMember, isFor, _⟩ := exists_of_mem_read read member
  rw [isFor, if_neg]
  rintro rfl
  exact absent listedMember

/-- There is a setting for every flavor exactly if the document holds a submitter for each. -/
theorem exists_settings_iff :
    (∃ settings, List.Forall₂ (SetsSubmitter submitters) flavors settings) ↔
      ∀ flavor ∈ flavors, (submitters.get? flavor).isSome := by
  rw [exists_forall₂_iff]
  refine forall₂_congr fun flavor _ => ?_
  rw [← exists_map_eq_some_iff (f := textOf)]
  constructor
  · rintro ⟨entry, _, gives⟩
    exact ⟨entry.2, gives⟩
  · rintro ⟨submitter, gives⟩
    exact ⟨(flavor, submitter), rfl, gives⟩

end Settings

section Performed

variable
  {listing : Listing}
  {settings : List (String × String)}
  {read : List Build}
  {result : Configuration}
  (performed :
    (Configuration.empty .legacy).performUntilRefused (history settings listing.flavors read) =
      .ok result)

include performed

/-- The result of a history records the items of the builds that are entered. -/
theorem records_of_performed :
    result.Records
      (read.flatMap fun build => List.replicate (build.items.length + 1) build.directory)
      (placed read) := by
  have records := (Configuration.records_empty .legacy).performUntilRefused performed
  rwa [filterMap_addition?_history, filterMap_directory?_history, List.nil_append,
    List.nil_append] at records

/-- The result of a history has the global flavors that it sets. -/
theorem globalFlavors_of_performed :
    result.globalFlavors = listing.flavors := by
  have last := Configuration.globalFlavors_performAll (.empty .legacy)
    (history settings listing.flavors read)
  rw [filterMap_globalFlavors?_history,
    ← Configuration.eq_performAll_of_performUntilRefused performed] at last
  exact Option.some.inj last

/-- The result of a history has the submitters that it sets last. -/
theorem globalSubmitter?_of_performed
    (flavor : String) :
    result.globalSubmitter? flavor =
      (settings.filterMap fun entry =>
        if flavor = entry.1 then some entry.2 else none).getLast? := by
  rw [Configuration.eq_performAll_of_performUntilRefused performed,
    Configuration.globalSubmitter?_performAll, filterMap_submitter?_history]
  exact Option.or_none

variable (readBuilds : List.Forall₂ (DescribesBuild listing.builds) listing.directories read)

include readBuilds

/-- The result of a history has the listed directories, each at its first place. -/
theorem directories_of_performed :
    result.directories = firstSeen listing.directories := by
  rw [(records_of_performed performed).directories, firstSeen_flatMap_replicate,
    ← map_directory_read readBuilds]
  simp

/--
The builds of the result are among those that are entered.  A directory that is listed again repeats
its build, but this build has no items then, as a repeated item would have been refused.
-/
theorem mem_read_of_performed
    {build : Build}
    (member : build ∈ result.builds) :
    build ∈ read := by
  have records := records_of_performed performed
  have isListed : build.directory ∈ read.map Build.directory := by
    rw [map_directory_read readBuilds, ← mem_firstSeen,
      ← directories_of_performed performed readBuilds]
    exact List.mem_map_of_mem member
  obtain ⟨entered, enteredMember, sameDirectory⟩ := List.mem_map.mp isListed
  obtain ⟨times, alike⟩ := filter_directory_eq_replicate readBuilds enteredMember
  have sameItems : build.items = entered.items := by
    have distinct := records.names build.directory
    rw [records.items_of_mem member, itemsIn_placed, ← sameDirectory, alike,
      List.flatMap_replicate]
    rw [itemsIn_placed, ← sameDirectory, alike, List.flatMap_replicate] at distinct
    exact flatten_replicate_succ_of_nodup distinct
  have sameLabel : build.label = entered.label := by
    obtain ⟨label, _, isLabel⟩ := (describesBuild_of_mem readBuilds enteredMember).label
    rw [← Configuration.labelOf_directory records.distinct member,
      Configuration.eq_performAll_of_performUntilRefused performed,
      Configuration.labelOf_performAll, filterMap_label?_history, ← sameDirectory, alike]
    simp [isLabel, List.getLast?_replicate]
  have same : build = entered := by
    rcases build with ⟨_, _, _⟩
    rw [Build.mk.injEq]
    exact ⟨sameDirectory.symm, sameLabel, sameItems⟩
  rw [same]
  exact enteredMember

/-- The builds of the result are what the document says about their directories. -/
theorem describesBuild_of_performed
    {build : Build}
    (member : build ∈ result.builds) :
    DescribesBuild listing.builds build.directory build :=
  describesBuild_of_mem readBuilds (mem_read_of_performed performed readBuilds member)

/-- The items of the result are what the tables of their builds say about their names. -/
theorem exists_describesItem_of_performed
    {build : Build}
    (buildMember : build ∈ result.builds)
    {item : Item}
    (itemMember : item ∈ build.items) :
    ∃ tables, DescribesItem tables item.name item := by
  obtain ⟨tables, keys, _, _, described⟩ :=
    (describesBuild_of_performed performed readBuilds buildMember).items
  obtain ⟨key, _, describes⟩ := exists_of_mem_read described itemMember
  rw [← describes.name] at describes
  exact ⟨tables, describes⟩

/-- Items of a build that is read are found under their directory and name. -/
theorem item_eq_ok_of_performed
    {build : Build}
    (buildMember : build ∈ result.builds)
    {item : Item}
    (itemMember : item ∈ build.items) :
    result.item build.directory item.name = .ok item := by
  have entered := mem_read_of_performed performed readBuilds buildMember
  have added : (build.directory, item) ∈ placed read :=
    List.mem_flatMap.mpr ⟨build, entered, List.mem_map_of_mem itemMember⟩
  exact (records_of_performed performed).item_eq_ok_iff.mpr ⟨added, rfl⟩

/-- What is asked about a listed directory is answered with what the document holds for it. -/
theorem answersForBuild_of_performed
    {directory : String}
    (listed : directory ∈ listing.directories) :
    AnswersForBuild result listing.builds directory := by
  have isBuilt : directory ∈ result.directories := by
    rw [directories_of_performed performed readBuilds, mem_firstSeen]
    exact listed
  obtain ⟨build, member, rfl⟩ := List.mem_map.mp isBuilt
  have found : result.build build.directory = .ok build := by
    rw [Configuration.build,
      Configuration.build?_directory (records_of_performed performed).distinct member]
  have describes := describesBuild_of_performed performed readBuilds member
  obtain ⟨label, givesLabel, isLabel⟩ := describes.label
  obtain ⟨tables, keys, givesTables, givesKeys, described⟩ := describes.items
  have names := map_eq_map_of_forall₂ (f := id) (g := Item.name) described
    fun key item describes => describes.name.symm
  have flavors := map_eq_map_of_forall₂ (f := flavorsOf tables) (g := Item.flavors) described
    fun key item describes => by rw [flavorsOf, describes.flavors, Option.getD_some]
  rw [List.map_id] at names
  refine ⟨⟨build, found, describes⟩, ⟨label, givesLabel, ?_⟩,
    ⟨tables, keys, givesTables, givesKeys, ?_, ?_, ?_⟩⟩
  · rw [Configuration.label, found, ← isLabel]
    rfl
  · rw [Configuration.itemNames, found, names]
    rfl
  · rw [Configuration.buildFlavors, found, List.flatMap_def, flavors, ← List.flatMap_def]
    rfl
  · intro key keyMember
    rw [names] at keyMember
    obtain ⟨item, itemMember, rfl⟩ := List.mem_map.mp keyMember
    obtain ⟨key, _, describesItem⟩ := exists_of_mem_read described itemMember
    obtain rfl := describesItem.name
    have isFound := item_eq_ok_of_performed performed readBuilds member itemMember
    exact ⟨item, describesItem.answersForItem isFound⟩

/-- A configuration that is read follows the listing of its document. -/
theorem follows_of_performed
    (readSettings : List.Forall₂ (SetsSubmitter listing.submitters) listing.flavors settings) :
    Follows result listing where
  directories := directories_of_performed performed readBuilds
  builds := by
    intro build member
    exact describesBuild_of_performed performed readBuilds member
  found := by
    intro build member item itemMember
    obtain ⟨tables, describes⟩ :=
      exists_describesItem_of_performed performed readBuilds member itemMember
    refine ⟨item_eq_ok_of_performed performed readBuilds member itemMember, ?_⟩
    rw [Item.analysisFunctorOrDirectory, describes.analysisFunctor, Option.getD_some]
  answers := by
    intro directory listed
    exact answersForBuild_of_performed performed readBuilds listed
  globalFlavors := globalFlavors_of_performed performed
  submitters := by
    intro flavor member
    rw [globalSubmitter?_of_performed performed]
    exact exists_submitter_of_mem readSettings member
  noOtherSubmitters := by
    intro flavor absent
    rw [globalSubmitter?_of_performed performed, filterMap_settings_eq_nil readSettings absent]
    rfl
  schema := by
    rw [Configuration.eq_performAll_of_performUntilRefused performed,
      Configuration.schema_performAll]
    rfl

end Performed

/-- In the legacy schema the benchmark of an item is the last component of its name. -/
theorem isLastComponent_benchmark
    {tree : Json.Value}
    {config : Configuration}
    (accepted : configuration tree = .ok config)
    {build : Build}
    (buildMember : build ∈ config.builds)
    {item : Item}
    (itemMember : item ∈ build.items) :
    IsLastComponent item.name item.benchmark := by
  obtain ⟨listing, settings, read, _, _, readBuilds, performed⟩ :=
    configuration_eq_ok_iff.mp accepted
  obtain ⟨tables, describes⟩ :=
    exists_describesItem_of_performed performed readBuilds buildMember itemMember
  exact describes.benchmark

/-- The keys that a document lists for a directory are the names of the items of its build. -/
theorem keysOf_eq
    {builds : List (String × Json.Value)}
    {directory : String}
    {build : Build}
    (describes : DescribesBuild builds directory build) :
    keysOf builds directory = build.items.map Item.name := by
  obtain ⟨tables, keys, _, givesKeys, described⟩ := describes.items
  have sameNames := map_eq_map_of_forall₂ (f := id) (g := Item.name) described
    fun key item describes => describes.name.symm
  rw [keysOf, givesKeys, Option.getD_some, ← sameNames, List.map_id]

/-- What a document describes is accepted exactly if no item of a directory is visited twice. -/
theorem exists_performUntilRefused_history_iff
    {listing : Listing}
    {read : List Build}
    (readBuilds : List.Forall₂ (DescribesBuild listing.builds) listing.directories read)
    (settings : List (String × String)) :
    (∃ result,
        (Configuration.empty .legacy).performUntilRefused (history settings listing.flavors read) =
          .ok result) ↔
      (visits listing).Nodup := by
  have sameVisits :
      (placed read).map (fun entry => (entry.1, entry.2.name)) = visits listing := by
    have here := map_eq_map_of_forall₂ readBuilds
      (f := fun directory => (keysOf listing.builds directory).map (Prod.mk directory))
      (g := fun build => build.items.map fun item => (build.directory, item.name))
      fun directory build describes => by
        rw [keysOf_eq describes, List.map_map, ← describes.isFor]
        rfl
    rw [visits, List.flatMap_def, here, placed, List.map_flatMap, List.flatMap_def]
    simp only [List.map_map]
    rfl
  rw [(Configuration.records_empty .legacy).exists_performUntilRefused_iff,
    filterMap_addition?_history, List.nil_append, Configuration.forall_nodup_itemsIn_iff,
    sameVisits]

/-- A document describes a build of a directory exactly if its entry is complete. -/
theorem exists_describesBuild_iff
    {builds : List (String × Json.Value)}
    {directory : String} :
    (∃ build, DescribesBuild builds directory build) ↔ CompleteBuild builds directory := by
  constructor
  · rintro ⟨build, _, ⟨label, givesLabel, _⟩, tables, keys, givesTables, givesKeys, described⟩
    refine ⟨exists_map_eq_some_iff.mp ⟨label, givesLabel⟩, tables, keys, givesTables, givesKeys, ?_⟩
    intro key member
    rw [← exists_describesItem_iff]
    exact exists_forall₂_iff.mp ⟨build.items, described⟩ key member
  · rintro ⟨hasLabel, tables, keys, givesTables, givesKeys, complete⟩
    obtain ⟨label, givesLabel⟩ := exists_map_eq_some_iff.mpr hasLabel
    simp only [← exists_describesItem_iff] at complete
    obtain ⟨items, described⟩ := exists_forall₂_iff.mpr complete
    exact ⟨⟨directory, some label, items⟩, rfl, ⟨label, givesLabel, rfl⟩, tables, keys, givesTables,
      givesKeys, described⟩

/--
A document of the legacy schema is accepted exactly if it is acceptable, and its configuration then
follows its listing.  Documents that agree on what they list are read alike.
-/
theorem configuration_follows_listing
    (tree : Json.Value) :
    ((∃ config, configuration tree = .ok config) ↔ Acceptable tree) ∧
      (∀ config, configuration tree = .ok config →
        ∃ listing, HasListing tree listing ∧ Follows config listing) ∧
      ∀ other,
        Option.Rel AgreeOnListed (tree.get? "description") (other.get? "description") →
          configuration tree = configuration other := by
  refine ⟨?_, ?_, fun other => configuration_congr⟩
  · simp only [configuration_eq_ok_iff]
    constructor
    · rintro ⟨config, listing, settings, read, has, readSettings, readBuilds, performed⟩
      refine ⟨listing, has, exists_settings_iff.mp ⟨settings, readSettings⟩, ?_,
        (exists_performUntilRefused_history_iff readBuilds settings).mp ⟨config, performed⟩⟩
      intro directory member
      rw [← exists_describesBuild_iff]
      exact exists_forall₂_iff.mp ⟨read, readBuilds⟩ directory member
    · rintro ⟨listing, has, submitters, complete, distinct⟩
      obtain ⟨settings, readSettings⟩ := exists_settings_iff.mpr submitters
      simp only [← exists_describesBuild_iff] at complete
      obtain ⟨read, readBuilds⟩ := exists_forall₂_iff.mpr complete
      obtain ⟨config, performed⟩ :=
        (exists_performUntilRefused_history_iff readBuilds settings).mpr distinct
      exact ⟨config, listing, settings, read, has, readSettings, readBuilds, performed⟩
  · intro config accepted
    obtain ⟨listing, settings, read, has, readSettings, readBuilds, performed⟩ :=
      configuration_eq_ok_iff.mp accepted
    exact ⟨listing, has, follows_of_performed performed readBuilds readSettings⟩

end BenchmarkOrchestration.Document.Legacy
