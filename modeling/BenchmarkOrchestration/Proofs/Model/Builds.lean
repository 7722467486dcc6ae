import BenchmarkOrchestration.Model.Query
import Mathlib.Data.List.Nodup

namespace BenchmarkOrchestration.Configuration

/-!
# Updating one build

A change of the build of one directory shows in the look-up of this directory and in no other.
The order of the builds is kept, and a new directory comes last.
-/

section

variable {change : Build → Build}

/-- A known directory keeps its place, and a new one comes last. -/
theorem map_directory_updateBuild
    (keeps : ∀ build, (change build).directory = build.directory)
    (directory : String)
    (builds : List Build) :
    (updateBuild change directory builds).map Build.directory =
      if directory ∈ builds.map Build.directory then builds.map Build.directory
      else builds.map Build.directory ++ [directory] := by
  induction builds with
  | nil =>
      simp [updateBuild, keeps]
  | cons build rest inductionHypothesis =>
      by_cases same : build.directory = directory
      · simp [updateBuild, same, keeps]
      · have other : directory ≠ build.directory := Ne.symm same
        simp only [updateBuild, if_neg same, List.map_cons, inductionHypothesis, List.mem_cons,
          other, false_or]
        split <;> rfl

/-- Looking up the changed directory gives the changed build, any other the one from before. -/
theorem find?_updateBuild
    (keeps : ∀ build, (change build).directory = build.directory)
    (directory other : String)
    (builds : List Build) :
    (updateBuild change directory builds).find? (fun build => build.directory = other) =
      if other = directory then
        some (change
          ((builds.find? fun build => build.directory = directory).getD ⟨directory, none, []⟩))
      else
        builds.find? fun build => build.directory = other := by
  induction builds with
  | nil =>
      by_cases same : other = directory
      · simp [updateBuild, keeps, same]
      · simp [updateBuild, keeps, same, Ne.symm same]
  | cons build rest inductionHypothesis =>
      by_cases atHead : build.directory = directory
      · by_cases same : other = directory
        · simp [updateBuild, atHead, keeps, same]
        · simp [updateBuild, atHead, keeps, same, Ne.symm same]
      · by_cases same : other = directory
        · subst same
          simpa [updateBuild, atHead] using inductionHypothesis
        · simp only [updateBuild, if_neg atHead, List.find?_cons, inductionHypothesis, if_neg same]

/-- Leaving the build of a known directory as it is changes nothing. -/
theorem updateBuild_id
    {directory : String}
    {builds : List Build}
    (known : directory ∈ builds.map Build.directory) :
    updateBuild id directory builds = builds := by
  induction builds with
  | nil =>
      simp at known
  | cons build rest inductionHypothesis =>
      by_cases atHead : build.directory = directory
      · simp [updateBuild, atHead]
      · have later : directory ∈ rest.map Build.directory := by
          simpa [Ne.symm atHead] using known
        simp [updateBuild, atHead, inductionHypothesis later]

/-- Adding a build before changing it is no more than changing it. -/
theorem updateBuild_updateBuild_id
    (directory : String)
    (builds : List Build) :
    updateBuild change directory (updateBuild id directory builds) =
      updateBuild change directory builds := by
  induction builds with
  | nil =>
      simp [updateBuild]
  | cons build rest inductionHypothesis =>
      by_cases atHead : build.directory = directory
      · simp [updateBuild, atHead]
      · simp [updateBuild, atHead, inductionHypothesis]

end

/-- A directory can be looked up exactly if it is among the directories of the builds. -/
theorem build?_eq_none_iff
    {config : Configuration}
    {directory : String} :
    config.build? directory = none ↔ directory ∉ config.directories := by
  simp [build?, directories]

/-- With distinct directories, every build is the one found at its directory. -/
theorem build?_directory
    {config : Configuration}
    (distinct : config.directories.Nodup)
    {build : Build}
    (member : build ∈ config.builds) :
    config.build? build.directory = some build := by
  obtain ⟨before, after, shape⟩ := List.append_of_mem member
  have unseen : ∀ earlier ∈ before, earlier.directory ≠ build.directory := by
    intro earlier earlierMember same
    rw [directories, shape, List.map_append, List.map_cons, List.nodup_append] at distinct
    exact distinct.2.2 _ (List.mem_map_of_mem earlierMember) _ (List.mem_cons_self) same
  have skipped :
      before.find? (fun earlier => earlier.directory = build.directory) = none := by
    simpa [List.find?_eq_none] using unseen
  simp [build?, shape, List.find?_append, skipped]

/-- The build that is found at a directory has this directory. -/
theorem directory_of_build?
    {config : Configuration}
    {directory : String}
    {build : Build}
    (found : config.build? directory = some build) :
    build.directory = directory := by
  simpa using List.find?_some found

/-- An item is looked up in the build of its directory. -/
theorem item_eq
    (config : Configuration)
    (directory name : String) :
    config.item directory name =
      match config.build? directory with
      | none => .error (.unknownBuild directory)
      | some build =>
          match build.items.find? fun item => item.name = name with
          | none => .error (.unknownItem directory name)
          | some item => .ok item := by
  rw [item, build]
  cases config.build? directory with
  | none =>
      rfl
  | some build =>
      simp only [bind, Except.bind]
      cases build.items.find? fun item => item.name = name <;> rfl

/-- Among items of distinct names, looking up a name finds the item that has it. -/
theorem find?_name_eq_some_iff
    {items : List Item}
    (distinct : (items.map Item.name).Nodup)
    {name : String}
    {item : Item} :
    items.find? (fun item => item.name = name) = some item ↔ item ∈ items ∧ item.name = name := by
  constructor
  · intro found
    exact ⟨List.mem_of_find?_eq_some found, by simpa using List.find?_some found⟩
  · rintro ⟨member, named⟩
    cases found : items.find? fun item => item.name = name with
    | none =>
        exact absurd (decide_eq_true named) (List.find?_eq_none.mp found item member)
    | some other =>
        have otherNamed : other.name = name := by simpa using List.find?_some found
        have same : other = item :=
          List.inj_on_of_nodup_map distinct (List.mem_of_find?_eq_some found) member
            (otherNamed.trans named.symm)
        rw [same]

/-- A build that has an item is known. -/
theorem mem_directories_of_hasItem
    {config : Configuration}
    {directory name : String}
    (present : config.hasItem directory name = true) :
    directory ∈ config.directories := by
  refine Classical.byContradiction fun unknown => ?_
  simp [hasItem, build?_eq_none_iff.mpr unknown] at present

/-- Adding a build adds no item. -/
theorem hasItem_addBuild
    (config : Configuration)
    (directory name : String) :
    (config.addBuild directory).hasItem directory name = config.hasItem directory name := by
  have keeps : ∀ build : Build, (id build).directory = build.directory := fun _ => rfl
  have found := find?_updateBuild keeps directory directory config.builds
  rw [if_pos rfl] at found
  simp only [hasItem, build?, addBuild, found]
  cases config.builds.find? fun build => build.directory = directory <;> rfl

/--
An item is refused if its build has one of its name, and then nothing has changed.  Otherwise it
is put at the end of the build.
-/
theorem putItem_eq
    (config : Configuration)
    (directory : String)
    (item : Item) :
    config.putItem directory item =
      if config.hasItem directory item.name then
        (.error (.duplicateItem directory item.name), config)
      else
        (.ok (), { config with
          builds :=
            updateBuild (fun build => { build with items := build.items ++ [item] }) directory
              config.builds }) := by
  rw [putItem, hasItem_addBuild]
  split
  · rename_i present
    have known := mem_directories_of_hasItem present
    have unchanged : config.addBuild directory = config := by
      rw [addBuild, updateBuild_id known]
    rw [unchanged]
  · rw [addBuild, updateBuild_updateBuild_id]

end BenchmarkOrchestration.Configuration
