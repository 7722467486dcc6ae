import BenchmarkOrchestration.Proofs.Targets.Preparation
import Mathlib.Data.List.Count
import Mathlib.Data.Prod.Basic

namespace BenchmarkOrchestration

/-!
# Two enumerations of the targets

The targets are listed item after item, each with the flavors as its document gives them.  The run
matrix goes through the flavors without repetitions and asks every item whether it declares them.
Both find the same targets, but only the run matrix finds each of them once: an item that declares a
flavor twice is listed, prepared and built twice in it.
-/

namespace Configuration

/-- The names by which the item at a place is looked up. -/
def placeNames
    (occurrence : String × Item) :
    String × String :=
  (occurrence.1, occurrence.2.name)

/-- The targets of the item at a place, one for each entry of its list of flavors. -/
def targetsAt
    (occurrence : String × Item) :
    List Target :=
  occurrence.2.flavors.map (Target.mk occurrence.1 occurrence.2.name)

/-- The target that a cell of the run matrix is about. -/
def cellTarget :
    String × String × Item → Target
  | (flavor, directory, item) => ⟨directory, item.name, flavor⟩

/-- The targets are those of the placed items, place after place. -/
theorem targets_eq_flatMap
    (config : Configuration) :
    config.targets = config.placedItems.flatMap targetsAt := by
  simp only [targets, placedItems, List.flatMap_assoc, List.flatMap_map]
  rfl

/-- The item that a look-up finds stands at a place of these names. -/
theorem mem_placedItems_of_item_eq_ok
    {config : Configuration}
    {directory name : String}
    {item : Item}
    (found : config.item directory name = .ok item) :
    (directory, item) ∈ config.placedItems ∧ item.name = name := by
  rw [item_eq] at found
  cases search : config.build? directory with
  | none =>
      simp [search] at found
  | some build =>
      cases inside : build.items.find? fun item => item.name = name with
      | none =>
          simp [search, inside] at found
      | some other =>
          have same : other = item := by simpa [search, inside] using found
          have itemMember := List.mem_of_find?_eq_some inside
          have named : other.name = name := by simpa using List.find?_some inside
          have buildMember := List.mem_of_find?_eq_some search
          subst same
          exact ⟨mem_placedItems.mpr
            ⟨build, buildMember, directory_of_build? search, itemMember⟩, named⟩

/-- The item at a place has the targets of its names and its flavors. -/
theorem mem_targetsAt
    {occurrence : String × Item}
    {target : Target} :
    target ∈ targetsAt occurrence ↔
      placeNames occurrence = (target.build, target.item) ∧
        target.flavor ∈ occurrence.2.flavors := by
  obtain ⟨build, item, flavor⟩ := target
  simp only [targetsAt, placeNames, List.mem_map, Target.mk.injEq, Prod.mk.injEq]
  constructor
  · rintro ⟨_, declares, sameBuild, sameItem, rfl⟩
    exact ⟨⟨sameBuild, sameItem⟩, declares⟩
  · rintro ⟨⟨sameBuild, sameItem⟩, declares⟩
    exact ⟨flavor, declares, sameBuild, sameItem, rfl⟩

/-- The target of a cell determines its flavor and the names of its place. -/
theorem cellTarget_eq_iff
    {flavor : String}
    {occurrence : String × Item}
    {target : Target} :
    cellTarget (flavor, occurrence) = target ↔
      placeNames occurrence = (target.build, target.item) ∧ flavor = target.flavor := by
  obtain ⟨build, item, other⟩ := target
  simp only [cellTarget, placeNames, Target.mk.injEq, Prod.mk.injEq, and_assoc]

/-- The run matrix has a cell for a target exactly if the target is listed. -/
theorem mem_map_cellTarget_cells
    {config : Configuration}
    {target : Target} :
    target ∈ (RunMatrix.cells config).map cellTarget ↔ target ∈ config.targets := by
  rw [RunMatrix.cells_eq, targets_eq_flatMap]
  simp only [List.map_flatMap, List.map_map, List.mem_flatMap, List.mem_map, List.mem_filter,
    Function.comp_apply, cellTarget_eq_iff, mem_targetsAt, Item.declaresFlavor,
    List.contains_iff_mem]
  constructor
  · rintro ⟨flavor, _, occurrence, ⟨member, declares⟩, named, rfl⟩
    exact ⟨occurrence, member, named, declares⟩
  · rintro ⟨occurrence, member, named, declares⟩
    have declared : target.flavor ∈ config.allFlavors := by
      rw [config.allFlavors_eq, mem_firstSeen]
      exact List.mem_flatMap.mpr ⟨occurrence, member, declares⟩
    exact ⟨target.flavor, declared, occurrence, ⟨member, declares⟩, named, rfl⟩

namespace Populated

variable
  {config : Configuration}
  (populated : config.Populated)

include populated

/-- No two places have the same names. -/
theorem placeNames_nodup :
    (config.placedItems.map placeNames).Nodup := by
  rw [placedItems, List.map_flatMap, List.nodup_flatMap]
  constructor
  · intro build member
    have names := populated.names_nodup member
    rw [List.map_map]
    have paired :
        build.items.map (placeNames ∘ Prod.mk build.directory) =
          (build.items.map Item.name).map (Prod.mk build.directory) := by
      rw [List.map_map]
      rfl
    rw [paired]
    exact names.map (Prod.mk_right_injective build.directory)
  · have directories := populated.directories_nodup
    rw [Configuration.directories, List.Nodup, List.pairwise_map] at directories
    refine directories.imp ?_
    intro first second differ names inFirst inSecond
    apply differ
    simp only [List.mem_map] at inFirst inSecond
    obtain ⟨_, ⟨item, _, rfl⟩, rfl⟩ := inFirst
    obtain ⟨_, ⟨other, _, rfl⟩, same⟩ := inSecond
    exact (congrArg Prod.fst same).symm

/-- A target is listed as often as its item declares its flavor. -/
theorem count_targets
    {occurrence : String × Item}
    (member : occurrence ∈ config.placedItems)
    (flavor : String) :
    config.targets.count ⟨occurrence.1, occurrence.2.name, flavor⟩ =
      occurrence.2.flavors.count flavor := by
  -- The names of the place occur at no other, so only its own list of flavors counts.
  obtain ⟨before, after, shape⟩ := List.append_of_mem member
  have names := populated.placeNames_nodup
  rw [shape, List.map_append, List.map_cons, List.nodup_append, List.nodup_cons] at names
  have absent :
      ∀ places : List (String × Item), placeNames occurrence ∉ places.map placeNames →
        (places.flatMap targetsAt).count ⟨occurrence.1, occurrence.2.name, flavor⟩ = 0 := by
    intro places unnamed
    rw [List.count_eq_zero, List.mem_flatMap]
    rintro ⟨other, otherMember, listed⟩
    have sameNames := (mem_targetsAt.mp listed).1
    exact unnamed (List.mem_map.mpr ⟨other, otherMember, sameNames⟩)
  have absentBefore := absent before fun earlier =>
    names.2.2 _ earlier _ List.mem_cons_self rfl
  have absentAfter := absent after names.2.1.1
  have here :
      (targetsAt occurrence).count ⟨occurrence.1, occurrence.2.name, flavor⟩ =
        occurrence.2.flavors.count flavor := by
    apply List.count_map_of_injective
    intro first second same
    exact (Target.mk.inj same).2.2
  rw [targets_eq_flatMap, shape, List.flatMap_append, List.flatMap_cons, List.count_append,
    List.count_append, absentBefore, absentAfter, here]
  omega

/-- The cells of the run matrix are about distinct targets. -/
theorem nodup_map_cellTarget_cells :
    ((RunMatrix.cells config).map cellTarget).Nodup := by
  have names := populated.placeNames_nodup
  rw [List.Nodup, List.pairwise_map] at names
  rw [RunMatrix.cells_eq, List.map_flatMap, List.nodup_flatMap]
  constructor
  · intro flavor _
    rw [List.map_map, List.Nodup, List.pairwise_map]
    refine (names.filter _).imp ?_
    intro first second differ same
    apply differ
    have sameTarget := cellTarget_eq_iff.mp same
    exact sameTarget.1
  · rw [config.allFlavors_eq]
    refine (nodup_firstSeen config.declaredFlavors).imp ?_
    intro first second differ target inFirst inSecond
    apply differ
    simp only [List.map_map, List.mem_map, Function.comp_apply, cellTarget_eq_iff]
      at inFirst inSecond
    obtain ⟨_, _, _, isFirst⟩ := inFirst
    obtain ⟨_, _, _, isSecond⟩ := inSecond
    rw [isFirst, isSecond]

/-- No target is listed twice exactly if no item declares a flavor twice. -/
theorem nodup_targets_iff :
    config.targets.Nodup ↔
      ∀ build ∈ config.builds, ∀ item ∈ build.items, item.flavors.Nodup := by
  constructor
  · intro once build buildMember item itemMember
    have member := mem_placedItems.mpr ⟨build, buildMember, rfl, itemMember⟩
    rw [List.nodup_iff_count] at once ⊢
    intro flavor
    rw [← populated.count_targets member flavor]
    exact once _
  · intro flavorsOnce
    rw [List.nodup_iff_count]
    intro target
    by_cases listed : target ∈ config.targets
    · rw [targets_eq_flatMap, List.mem_flatMap] at listed
      obtain ⟨⟨directory, item⟩, member, inItem⟩ := listed
      obtain ⟨build, buildMember, rfl, itemMember⟩ := mem_placedItems.mp member
      obtain ⟨flavor, _, rfl⟩ := List.mem_map.mp inItem
      rw [populated.count_targets member flavor]
      exact List.nodup_iff_count.mp (flavorsOnce build buildMember item itemMember) flavor
    · rw [List.count_eq_zero_of_not_mem listed]
      exact Nat.zero_le 1

/-- A target is listed exactly if its item is found and declares its flavor. -/
theorem mem_targets_iff
    {target : Target} :
    target ∈ config.targets ↔
      ∃ item,
        config.item target.build target.item = .ok item ∧ target.flavor ∈ item.flavors := by
  rw [targets_eq_flatMap, List.mem_flatMap]
  constructor
  · rintro ⟨⟨directory, item⟩, member, inItem⟩
    obtain ⟨flavor, declares, rfl⟩ := List.mem_map.mp inItem
    exact ⟨item, populated.item_eq_ok_of_placed member, declares⟩
  · rintro ⟨item, found, declares⟩
    obtain ⟨member, named⟩ := mem_placedItems_of_item_eq_ok found
    have sameNames : placeNames (target.build, item) = (target.build, target.item) := by
      rw [placeNames, named]
    exact ⟨(target.build, item), member, mem_targetsAt.mpr ⟨sameNames, declares⟩⟩

end Populated

/--
Targets are listed as declared if the list has what the items declare, and as often as they do; if
they are prepared in the same list; and if the run matrix is about the same targets, once each.
-/
structure ListsAsDeclared
    (config : Configuration) :
    Prop where
  listed_iff :
    ∀ target,
      target ∈ config.targets ↔
        ∃ item,
          config.item target.build target.item = .ok item ∧ target.flavor ∈ item.flavors
  asOften :
    ∀ target item,
      config.item target.build target.item = .ok item →
        config.targets.count target = item.flavors.count target.flavor
  once_iff :
    config.targets.Nodup ↔
      ∀ build ∈ config.builds, ∀ item ∈ build.items, item.flavors.Nodup
  prepared :
    ∀ {σ : Type} (draw : IdentitySource σ) (filtersAtCompileTime : Bool) (source : σ),
      (config.executionTargets draw filtersAtCompileTime source).1.map ExecutionTarget.target =
        config.targets
  inMatrix_iff :
    ∀ target, target ∈ (RunMatrix.cells config).map cellTarget ↔ target ∈ config.targets
  onceInMatrix : ((RunMatrix.cells config).map cellTarget).Nodup

/--
The configuration of an accepted document lists its targets as declared.  They are distinct exactly
if no item of the document repeats a flavor.
-/
theorem listsAsDeclared_of_read
    {mode : ReadingMode}
    {home : String}
    {document : Json.Value}
    {config : Configuration}
    (accepted : Document.read mode home document = .ok config) :
    config.ListsAsDeclared := by
  have populated := Document.populated_of_read accepted
  constructor
  · intro target
    exact populated.mem_targets_iff
  · intro target item found
    obtain ⟨member, named⟩ := mem_placedItems_of_item_eq_ok found
    have counted := populated.count_targets member target.flavor
    rw [named] at counted
    exact counted
  · exact populated.nodup_targets_iff
  · intro σ draw filtersAtCompileTime source
    exact map_target_executionTargets draw filtersAtCompileTime config source
  · intro target
    exact mem_map_cellTarget_cells
  · exact populated.nodup_map_cellTarget_cells

/-- The repeated flavor is listed twice, while the run matrix has one cell for it. -/
theorem listsAsDeclared_of_read_repeating :
    Document.read (.fixed .simplified) "/home" repeatingDocument = .ok repeatingConfiguration ∧
      repeatingConfiguration.ListsAsDeclared ∧
      (RunMatrix.cells repeatingConfiguration).map cellTarget =
        [⟨"/b", "k", "ct"⟩, ⟨"/b", "k", "vanilla"⟩] := by
  have accepted :
      Document.read (.fixed .simplified) "/home" repeatingDocument =
        .ok repeatingConfiguration := by
    decide +kernel
  exact ⟨accepted, listsAsDeclared_of_read accepted, by decide +kernel⟩

/-- A target of an accepted document can be listed twice, and it gets two identities then. -/
theorem not_nodup_targets_repeating :
    Document.read (.fixed .simplified) "/home" repeatingDocument = .ok repeatingConfiguration ∧
      ¬ repeatingConfiguration.targets.Nodup ∧
      repeatingConfiguration.targets =
        [⟨"/b", "k", "ct"⟩, ⟨"/b", "k", "vanilla"⟩, ⟨"/b", "k", "ct"⟩] ∧
      ((repeatingConfiguration.executionTargets Identity.numbered true 0).1.map
          ExecutionTarget.identity) =
        ["item-1", "item-2", "item-3"] := by
  decide +kernel

end Configuration

end BenchmarkOrchestration
