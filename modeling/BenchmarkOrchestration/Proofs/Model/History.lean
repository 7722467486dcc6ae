import BenchmarkOrchestration.Proofs.Model.Builds
import BenchmarkOrchestration.Proofs.Model.FirstSeen

namespace BenchmarkOrchestration

/-!
# Histories of configurations

A configuration is populated by a sequence of operations.  Whatever the sequence, the directories
stay distinct, and so do the names of the items of each build.  The configuration mirrors the
history: builds and items are listed in the order in which they were added first, an item is
refused exactly if its directory got one of its name before, and a look-up finds the item that was
added under the name.
-/

/-- One step of populating a configuration. -/
inductive Operation where
  | addBuild (directory : String) (label : Option String)
  | addItem (directory : String) (item : Item)
  | setGlobalFlavors (flavors : List String)
  | setGlobalSubmitter (flavor submitter : String)

namespace Operation

/-- The build directory that an operation registers. -/
def directory? : Operation → Option String
  | .addBuild directory _ => some directory
  | .addItem directory _ => some directory
  | .setGlobalFlavors _ => none
  | .setGlobalSubmitter _ _ => none

/-- The item that an operation adds unless it is refused, with its directory. -/
def addition? : Operation → Option (String × Item)
  | .addItem directory item => some (directory, item)
  | .addBuild _ _ => none
  | .setGlobalFlavors _ => none
  | .setGlobalSubmitter _ _ => none

end Operation

namespace Configuration

/-- Perform an operation; the answer stands beside the configuration as it is afterwards. -/
def perform
    (config : Configuration) :
    Operation → Except DocumentFault Unit × Configuration
  | .addBuild directory none => (.ok (), config.addBuild directory)
  | .addBuild directory (some label) => (.ok (), config.addLabelledBuild directory label)
  | .addItem directory item => config.putItem directory item
  | .setGlobalFlavors flavors => (.ok (), config.setGlobalFlavors flavors)
  | .setGlobalSubmitter flavor submitter => (.ok (), config.setGlobalSubmitter flavor submitter)

/-- Perform the operations of a history one after the other. -/
def performAll
    (config : Configuration)
    (history : List Operation) :
    Configuration :=
  history.foldl (fun config operation => (config.perform operation).2) config

/-- The item that an operation added with success. -/
def accepted
    (config : Configuration)
    (operation : Operation) :
    List (String × Item) :=
  match (config.perform operation).1 with
  | .ok () => operation.addition?.toList
  | .error _ => []

/-- An operation that is no addition adds nothing. -/
theorem accepted_eq_nil
    (config : Configuration)
    {operation : Operation}
    (nothing : operation.addition? = none) :
    config.accepted operation = [] := by
  rw [accepted, nothing]
  split <;> rfl

/-- The items that a history added with success, in order, each with its directory. -/
def additions
    (config : Configuration) :
    List Operation → List (String × Item)
  | [] => []
  | operation :: rest =>
      config.accepted operation ++ (config.perform operation).2.additions rest

end Configuration

/-- The items among some additions that went to a directory. -/
def itemsIn
    (directory : String)
    (added : List (String × Item)) :
    List Item :=
  (added.filter fun entry => entry.1 = directory).map (·.2)

/-- An item is among those of a directory exactly if it was added there. -/
theorem mem_itemsIn
    {directory : String}
    {added : List (String × Item)}
    {item : Item} :
    item ∈ itemsIn directory added ↔ (directory, item) ∈ added := by
  simp [itemsIn]

/-- A later addition comes last among the items of its directory and is in no other. -/
theorem itemsIn_append_singleton
    (directory other : String)
    (item : Item)
    (added : List (String × Item)) :
    itemsIn other (added ++ [(directory, item)]) =
      if directory = other then itemsIn other added ++ [item] else itemsIn other added := by
  by_cases same : directory = other <;> simp [itemsIn, same]

namespace Configuration

/--
A configuration records which directories were registered and which items were added: the
directories in the order in which they are seen first, and in each build its own items.
-/
structure Records
    (config : Configuration)
    (registered : List String)
    (added : List (String × Item)) :
    Prop where
  directories : config.directories = firstSeen registered
  items :
    ∀ directory build,
      config.build? directory = some build → build.items = itemsIn directory added
  names : ∀ directory, ((itemsIn directory added).map Item.name).Nodup
  registers : ∀ entry ∈ added, entry.1 ∈ registered

namespace Records

variable
  {config : Configuration}
  {registered : List String}
  {added : List (String × Item)}

/-- The directories of the builds are distinct. -/
theorem distinct
    (records : Records config registered added) :
    config.directories.Nodup :=
  records.directories ▸ nodup_firstSeen registered

/-- A directory has a build exactly if it was registered. -/
theorem mem_directories
    (records : Records config registered added)
    {directory : String} :
    directory ∈ config.directories ↔ directory ∈ registered := by
  rw [records.directories, mem_firstSeen]

/-- The items at a directory, which has none while it has no build. -/
theorem items_getD
    (records : Records config registered added)
    (directory : String) :
    ((config.build? directory).getD ⟨directory, none, []⟩).items = itemsIn directory added := by
  cases found : config.build? directory with
  | some build =>
      exact records.items directory build found
  | none =>
      have unregistered : directory ∉ registered := by
        rw [← records.mem_directories]
        exact build?_eq_none_iff.mp found
      have nothing : itemsIn directory added = [] := by
        rw [List.eq_nil_iff_forall_not_mem]
        intro item member
        exact unregistered (records.registers _ (mem_itemsIn.mp member))
      rw [nothing]
      rfl

/-- A configuration has an item exactly if one of its name was added to the directory. -/
theorem hasItem_iff
    (records : Records config registered added)
    {directory name : String} :
    config.hasItem directory name = true ↔
      ∃ earlier, (directory, earlier) ∈ added ∧ earlier.name = name := by
  have items := records.items_getD directory
  simp only [← mem_itemsIn, ← items, hasItem]
  cases config.build? directory <;> simp

/--
Changing one build, without changing its directory, records the directory, and with it whatever
the change appends to the items.
-/
theorem updateBuild
    (records : Records config registered added)
    (change : Build → Build)
    {directory : String}
    {changed : Configuration}
    {later : List (String × Item)}
    (keeps : ∀ build, (change build).directory = build.directory)
    (builds : changed.builds = Configuration.updateBuild change directory config.builds)
    (here :
      ∀ build, build.items = itemsIn directory added →
        (change build).items = itemsIn directory later)
    (elsewhere : ∀ other, other ≠ directory → itemsIn other later = itemsIn other added)
    (names : ((itemsIn directory later).map Item.name).Nodup)
    (registers : ∀ entry ∈ later, entry.1 ∈ registered ++ [directory]) :
    Records changed (registered ++ [directory]) later where
  directories := by
    rw [Configuration.directories, builds, map_directory_updateBuild keeps,
      firstSeen_append_singleton, ← records.directories, Configuration.directories]
  items := by
    intro other build found
    rw [build?, builds, find?_updateBuild keeps] at found
    by_cases same : other = directory
    · subst same
      rw [if_pos rfl, Option.some.injEq] at found
      rw [← found]
      exact here _ (records.items_getD other)
    · rw [if_neg same] at found
      rw [elsewhere other same]
      exact records.items other build found
  names := by
    intro other
    by_cases same : other = directory
    · subst same
      exact names
    · rw [elsewhere other same]
      exact records.names other
  registers := registers

/-- Changing a build without changing its directory and its items records the directory. -/
theorem updateBuild_of_items_eq
    (records : Records config registered added)
    (change : Build → Build)
    {directory : String}
    {changed : Configuration}
    (keeps : ∀ build, (change build).directory = build.directory)
    (keepsItems : ∀ build, (change build).items = build.items)
    (builds : changed.builds = Configuration.updateBuild change directory config.builds) :
    Records changed (registered ++ [directory]) added :=
  records.updateBuild change keeps builds
    (fun build items => (keepsItems build).trans items)
    (fun _ _ => rfl)
    (records.names directory)
    (fun entry member => List.mem_append_left _ (records.registers entry member))

/-- An added build is recorded. -/
theorem addBuild
    (records : Records config registered added)
    (directory : String) :
    Records (config.addBuild directory) (registered ++ [directory]) added :=
  records.updateBuild_of_items_eq id (fun _ => rfl) (fun _ => rfl) rfl

/-- Putting an item records its directory, and the item if it is not refused. -/
theorem putItem
    (records : Records config registered added)
    (directory : String)
    (item : Item) :
    Records (config.putItem directory item).2 (registered ++ [directory])
      (added ++ config.accepted (.addItem directory item)) := by
  rw [accepted, perform, putItem_eq]
  split
  · rename_i present
    rw [List.append_nil]
    have unchanged := updateBuild_id (mem_directories_of_hasItem present)
    exact records.updateBuild_of_items_eq id (fun _ => rfl) (fun _ => rfl) unchanged.symm
  · rename_i absent
    have items := itemsIn_append_singleton directory
    refine records.updateBuild (fun build => { build with items := build.items ++ [item] })
      (fun _ => rfl) rfl ?_ ?_ ?_ ?_
    · intro build buildItems
      rw [Operation.addition?, Option.toList_some, items, if_pos rfl, ← buildItems]
    · intro other different
      rw [Operation.addition?, Option.toList_some, items, if_neg (Ne.symm different)]
    · rw [Operation.addition?, Option.toList_some, items, if_pos rfl, List.map_append,
        List.map_singleton, List.nodup_append]
      refine ⟨records.names directory, List.nodup_singleton _, ?_⟩
      intro name member other isLast same
      obtain ⟨earlier, earlierMember, rfl⟩ := List.mem_map.mp member
      rw [List.mem_singleton] at isLast
      exact absent (records.hasItem_iff.mpr
        ⟨earlier, mem_itemsIn.mp earlierMember, same.trans isLast⟩)
    · intro entry member
      rcases List.mem_append.mp member with earlier | last
      · exact List.mem_append_left _ (records.registers entry earlier)
      · rw [Operation.addition?, Option.toList_some, List.mem_singleton] at last
        simp [last]

/-- Every operation records what it registers and what it adds. -/
theorem perform
    (records : Records config registered added)
    (operation : Operation) :
    Records (config.perform operation).2 (registered ++ operation.directory?.toList)
      (added ++ config.accepted operation) := by
  cases operation with
  | addBuild directory label =>
      rw [accepted_eq_nil config rfl, List.append_nil]
      cases label with
      | none =>
          exact records.addBuild directory
      | some label =>
          exact records.updateBuild_of_items_eq (fun build => { build with label := some label })
            (fun _ => rfl) (fun _ => rfl) rfl
  | addItem directory item =>
      exact records.putItem directory item
  | setGlobalFlavors flavors =>
      rw [accepted_eq_nil config rfl, List.append_nil, Operation.directory?, Option.toList_none,
        List.append_nil]
      exact ⟨records.directories, records.items, records.names, records.registers⟩
  | setGlobalSubmitter flavor submitter =>
      rw [accepted_eq_nil config rfl, List.append_nil, Operation.directory?, Option.toList_none,
        List.append_nil]
      exact ⟨records.directories, records.items, records.names, records.registers⟩

/-- A history records everything that it registers and adds. -/
theorem performAll
    (records : Records config registered added)
    (history : List Operation) :
    Records (config.performAll history)
      (registered ++ history.filterMap Operation.directory?)
      (added ++ config.additions history) := by
  induction history generalizing config registered added with
  | nil =>
      simpa [Configuration.performAll, additions] using records
  | cons operation rest inductionHypothesis =>
      have later := inductionHypothesis (records.perform operation)
      have registers :
          (operation :: rest).filterMap Operation.directory? =
            operation.directory?.toList ++ rest.filterMap Operation.directory? := by
        cases shape : operation.directory? <;> simp [shape]
      rw [registers, additions, ← List.append_assoc, ← List.append_assoc]
      exact later

end Records

/-- A fresh configuration records that nothing happened. -/
theorem records_empty
    (schema : Schema) :
    Records (empty schema) [] [] where
  directories := rfl
  items := by
    intro directory build found
    cases found
  names := by
    intro directory
    exact List.nodup_nil
  registers := by
    intro entry member
    cases member

/-- Two configurations differ only in an item that one of them has at the end of a build. -/
structure Appends
    (before after : Configuration)
    (directory : String)
    (item : Item) :
    Prop where
  here :
    let build := (before.build? directory).getD ⟨directory, none, []⟩
    after.build? directory = some { build with items := build.items ++ [item] }
  elsewhere : ∀ other, other ≠ directory → after.build? other = before.build? other
  directories :
    after.directories =
      if directory ∈ before.directories then before.directories
      else before.directories ++ [directory]
  schema : after.schema = before.schema
  globalFlavors : after.globalFlavors = before.globalFlavors
  globalSubmitters : after.globalSubmitters = before.globalSubmitters

/-- An item that is not refused is appended to its build, and nothing else changes. -/
theorem appends_putItem
    {config : Configuration}
    {directory : String}
    {item : Item}
    (added : (config.putItem directory item).1 = .ok ()) :
    Appends config (config.putItem directory item).2 directory item := by
  rw [putItem_eq] at added ⊢
  split at added
  · cases added
  · rename_i absent
    rw [if_neg absent]
    have keeps :
        ∀ build : Build,
          { build with items := build.items ++ [item] }.directory = build.directory :=
      fun _ => rfl
    have found := find?_updateBuild keeps directory
    exact {
      here := (found directory config.builds).trans (if_pos rfl)
      elsewhere := fun other different => (found other config.builds).trans (if_neg different)
      directories := map_directory_updateBuild keeps directory config.builds
      schema := rfl
      globalFlavors := rfl
      globalSubmitters := rfl }

/--
A configuration mirrors which directories were registered and which items were added to them.
Directories and names are distinct and keep their order.  An item is refused exactly if its
directory got one of its name before, which changes nothing, and is appended otherwise.  A look-up
finds what was added and tells a directory without the item from one that is unknown.
-/
structure Mirrors
    (config : Configuration)
    (registered : List String)
    (added : List (String × Item)) :
    Prop where
  directoriesDistinct : config.directories.Nodup
  namesDistinct : ∀ build ∈ config.builds, (build.items.map Item.name).Nodup
  directoriesInOrder : config.directories = firstSeen registered
  itemsInOrder : ∀ build ∈ config.builds, build.items = itemsIn build.directory added
  refused_iff :
    ∀ directory item,
      (∃ fault, (config.putItem directory item).1 = .error fault) ↔
        ∃ earlier, (directory, earlier) ∈ added ∧ earlier.name = item.name
  refused :
    ∀ directory item fault,
      (config.putItem directory item).1 = .error fault →
        fault = .duplicateItem directory item.name ∧ (config.putItem directory item).2 = config
  appended :
    ∀ directory item,
      (config.putItem directory item).1 = .ok () →
        Appends config (config.putItem directory item).2 directory item
  found_iff :
    ∀ directory name item,
      config.item directory name = .ok item ↔ (directory, item) ∈ added ∧ item.name = name
  unknownBuild_iff :
    ∀ directory name,
      config.item directory name = .error (.unknownBuild directory) ↔ directory ∉ registered
  unknownItem_iff :
    ∀ directory name,
      config.item directory name = .error (.unknownItem directory name) ↔
        directory ∈ registered ∧ ∀ item, (directory, item) ∈ added → item.name ≠ name

namespace Records

variable
  {config : Configuration}
  {registered : List String}
  {added : List (String × Item)}

/-- The items of a build are those that were added to its directory. -/
theorem items_of_mem
    (records : Records config registered added)
    {build : Build}
    (member : build ∈ config.builds) :
    build.items = itemsIn build.directory added :=
  records.items _ _ (build?_directory records.distinct member)

/-- A look-up finds exactly the item that was added to the directory under the name. -/
theorem item_eq_ok_iff
    (records : Records config registered added)
    {directory name : String}
    {item : Item} :
    config.item directory name = .ok item ↔ (directory, item) ∈ added ∧ item.name = name := by
  have items := records.items_getD directory
  rw [item_eq, ← mem_itemsIn, ← find?_name_eq_some_iff (records.names directory), ← items]
  cases config.build? directory with
  | none =>
      simp
  | some build =>
      dsimp only [Option.getD_some]
      cases build.items.find? fun item => item.name = name <;> simp

/-- A look-up reports an unknown build exactly if the directory was never registered. -/
theorem item_eq_unknownBuild_iff
    (records : Records config registered added)
    {directory name : String} :
    config.item directory name = .error (.unknownBuild directory) ↔ directory ∉ registered := by
  rw [← records.mem_directories, ← build?_eq_none_iff, item_eq]
  cases config.build? directory with
  | none =>
      simp
  | some build =>
      dsimp only
      cases build.items.find? fun item => item.name = name <;> simp

/-- A look-up reports an unknown item exactly if a registered directory got none of the name. -/
theorem item_eq_unknownItem_iff
    (records : Records config registered added)
    {directory name : String} :
    config.item directory name = .error (.unknownItem directory name) ↔
      directory ∈ registered ∧ ∀ item, (directory, item) ∈ added → item.name ≠ name := by
  have items := records.items directory
  simp only [← records.mem_directories, ← mem_itemsIn, item_eq]
  cases found : config.build? directory with
  | none =>
      simp [build?_eq_none_iff.mp found]
  | some build =>
      have known : directory ∈ config.directories := by
        refine Classical.byContradiction fun unknown => ?_
        simp [build?_eq_none_iff.mpr unknown] at found
      rw [← items build found]
      dsimp only
      cases search : build.items.find? fun item => item.name = name with
      | none =>
          simpa [known] using search
      | some item =>
          have member := List.mem_of_find?_eq_some search
          have named : item.name = name := by simpa using List.find?_some search
          simp only [reduceCtorEq, false_iff, not_and]
          intro _ absent
          exact absent item member named

/-- What a configuration records, it mirrors. -/
theorem mirrors
    (records : Records config registered added) :
    Mirrors config registered added where
  directoriesDistinct := records.distinct
  namesDistinct := by
    intro build member
    rw [records.items_of_mem member]
    exact records.names build.directory
  directoriesInOrder := records.directories
  itemsInOrder := by
    intro build member
    exact records.items_of_mem member
  refused_iff := by
    intro directory item
    rw [putItem_eq, ← records.hasItem_iff]
    split <;> simp_all
  refused := by
    intro directory item fault refused
    rw [putItem_eq] at refused ⊢
    split at refused
    · rename_i present
      rw [if_pos present]
      exact ⟨(Except.error.inj refused).symm, rfl⟩
    · cases refused
  appended := by
    intro directory item added
    exact appends_putItem added
  found_iff := by
    intro directory name item
    exact records.item_eq_ok_iff
  unknownBuild_iff := by
    intro directory name
    exact records.item_eq_unknownBuild_iff
  unknownItem_iff := by
    intro directory name
    exact records.item_eq_unknownItem_iff

end Records

/-- Every history of a fresh configuration is mirrored by the configuration that it leads to. -/
theorem performAll_mirrors_history
    (schema : Schema)
    (history : List Operation) :
    Mirrors ((empty schema).performAll history)
      (history.filterMap Operation.directory?)
      ((empty schema).additions history) :=
  ((records_empty schema).performAll history).mirrors

end Configuration

end BenchmarkOrchestration
