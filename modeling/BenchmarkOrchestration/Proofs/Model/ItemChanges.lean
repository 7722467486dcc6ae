import BenchmarkOrchestration.Model.Configuration

namespace BenchmarkOrchestration

/-!
# Changing all items

A change of items that keeps their names may be made before or after a configuration is populated:
whether an item is refused, and where it goes, depends on names and directories only.
-/

/-- The build with every item changed. -/
def Build.mapItems
    (change : Item → Item)
    (build : Build) :
    Build :=
  { build with items := build.items.map change }

namespace Configuration

/-- The configuration with every item changed. -/
def mapItems
    (change : Item → Item)
    (config : Configuration) :
    Configuration :=
  { config with builds := config.builds.map (Build.mapItems change) }

/-- The arguments of every item, build after build. -/
def itemArguments
    (config : Configuration) :
    List (String × String × RunArguments) :=
  config.builds.flatMap fun build =>
    build.items.map fun item => (build.directory, item.name, item.arguments)

/-- A change that keeps names and arguments does not show in the arguments. -/
theorem itemArguments_mapItems
    {change : Item → Item}
    (keepsName : ∀ item, (change item).name = item.name)
    (keepsArguments : ∀ item, (change item).arguments = item.arguments)
    (config : Configuration) :
    (config.mapItems change).itemArguments = config.itemArguments := by
  rw [itemArguments, mapItems, List.flatMap_map]
  simp only [Build.mapItems, List.map_map, Function.comp_def, keepsName, keepsArguments]
  rfl

/-- Changing all items and then one build is changing the build accordingly and then all items. -/
theorem updateBuild_mapItems
    (change : Item → Item)
    (update updateBefore : Build → Build)
    (exchange :
      ∀ build, update (build.mapItems change) = (updateBefore build).mapItems change)
    (directory : String)
    (builds : List Build) :
    updateBuild update directory (builds.map (Build.mapItems change)) =
      (updateBuild updateBefore directory builds).map (Build.mapItems change) := by
  induction builds with
  | nil =>
      have new : update ⟨directory, none, []⟩ =
          (updateBefore ⟨directory, none, []⟩).mapItems change :=
        exchange ⟨directory, none, []⟩
      rw [List.map_nil, updateBuild, updateBuild, List.map_singleton, new]
  | cons build rest inductionHypothesis =>
      rw [List.map_cons, updateBuild, updateBuild, exchange, inductionHypothesis]
      by_cases atHead : build.directory = directory
      · rw [if_pos atHead]
        exact if_pos atHead
      · rw [if_neg atHead]
        exact if_neg atHead

section Population

variable
  {change : Item → Item}
  (config : Configuration)
  (directory : String)

/-- Builds are added alike before and after a change of the items. -/
theorem addBuild_mapItems :
    (config.mapItems change).addBuild directory =
      (config.addBuild directory).mapItems change := by
  have builds :=
    updateBuild_mapItems change id id (fun _ => rfl) directory config.builds
  rw [addBuild, addBuild, mapItems, mapItems, builds]

/-- Labels are set alike before and after a change of the items. -/
theorem addLabelledBuild_mapItems
    (label : String) :
    (config.mapItems change).addLabelledBuild directory label =
      (config.addLabelledBuild directory label).mapItems change := by
  have builds :=
    updateBuild_mapItems change
      (fun build => { build with label := some label })
      (fun build => { build with label := some label })
      (fun _ => rfl) directory config.builds
  rw [addLabelledBuild, addLabelledBuild, mapItems, mapItems, builds]

/-- A change that keeps names does not show in the question for a name. -/
theorem hasItem_mapItems
    (keepsName : ∀ item, (change item).name = item.name)
    (name : String) :
    (config.mapItems change).hasItem directory name = config.hasItem directory name := by
  have found : (config.mapItems change).build? directory =
      (config.build? directory).map (Build.mapItems change) := by
    rw [build?, build?, mapItems, List.find?_map]
    rfl
  rw [hasItem, hasItem, found]
  cases config.build? directory with
  | none =>
      rfl
  | some build =>
      simp only [Option.map_some, Build.mapItems, List.any_map, Function.comp_def, keepsName]

/-- A changed item is added to a changed configuration as the item itself to the configuration. -/
theorem addItem_mapItems
    (keepsName : ∀ item, (change item).name = item.name)
    (item : Item) :
    (config.mapItems change).addItem directory (change item) =
      mapItems change <$> config.addItem directory item := by
  have builds :=
    updateBuild_mapItems change
      (fun build => { build with items := build.items ++ [change item] })
      (fun build => { build with items := build.items ++ [item] })
      (fun build => by rw [Build.mapItems, Build.mapItems, List.map_append, List.map_singleton])
      directory (config.addBuild directory).builds
  simp only [addItem, putItem, addBuild_mapItems, hasItem_mapItems _ _ keepsName, keepsName]
  cases (config.addBuild directory).hasItem directory item.name with
  | true =>
      rfl
  | false =>
      simp only [mapItems, Bool.false_eq_true, if_false, builds]
      rfl

end Population

end Configuration

end BenchmarkOrchestration
