import BenchmarkOrchestration.Proofs.Model.History

namespace BenchmarkOrchestration

/-!
# What was set last

The label of a build, the global flavors and the submitter of a flavor can be set again and again.
After a history each of them is what was set last, or what it was before if the history does not
set it.
-/

namespace SortedTable

/-- An entry is found at its key once it is put there, and every other key finds what it found. -/
theorem lookup_putEntry
    (key value other : String)
    (entries : List (String × String)) :
    (putEntry key value entries).lookup other =
      if other = key then some value else entries.lookup other := by
  induction entries with
  | nil =>
      by_cases same : other = key
      · simp [putEntry, same]
      · simp [putEntry, List.lookup_cons, same, beq_eq_false_iff_ne.mpr same]
  | cons first rest inductionHypothesis =>
      obtain ⟨k, v⟩ := first
      by_cases same : other = key
      · subst same
        rw [if_pos rfl] at inductionHypothesis
        rw [putEntry, if_pos rfl]
        split
        · exact List.lookup_cons_self
        · split
          · exact List.lookup_cons_self
          · rename_i differ
            rw [List.lookup_cons, beq_eq_false_iff_ne.mpr (Ne.symm differ)]
            exact inductionHypothesis
      · have unseen := beq_eq_false_iff_ne.mpr same
        rw [if_neg same] at inductionHypothesis
        rw [putEntry, if_neg same]
        split
        · rw [List.lookup_cons, unseen]
        · split
          · rename_i atFirst
            rw [List.lookup_cons, List.lookup_cons, atFirst, unseen]
          · rw [List.lookup_cons, List.lookup_cons, inductionHypothesis]

/-- Setting the text at a key changes what is found there and nothing else. -/
theorem get?_insert
    (table : SortedTable)
    (key value other : String) :
    (table.insert key value).get? other = if other = key then some value else table.get? other :=
  lookup_putEntry key value other table.entries

end SortedTable

namespace Operation

/-- The label that an operation gives to the build of a directory. -/
def label?
    (directory : String) :
    Operation → Option String
  | .addBuild registered label => if registered = directory then label else none
  | .addItem _ _ => none
  | .setGlobalFlavors _ => none
  | .setGlobalSubmitter _ _ => none

/-- The global flavors that an operation sets. -/
def globalFlavors? : Operation → Option (List String)
  | .setGlobalFlavors flavors => some flavors
  | .addBuild _ _ => none
  | .addItem _ _ => none
  | .setGlobalSubmitter _ _ => none

/-- The submitter that an operation sets for a flavor. -/
def submitter?
    (flavor : String) :
    Operation → Option String
  | .setGlobalSubmitter set submitter => if flavor = set then some submitter else none
  | .addBuild _ _ => none
  | .addItem _ _ => none
  | .setGlobalFlavors _ => none

end Operation

namespace Configuration

/-- The label of the build of a directory, if there is one. -/
def labelOf
    (config : Configuration)
    (directory : String) :
    Option String :=
  (config.build? directory).bind Build.label

/-- What every operation either sets or leaves as it is has the value that was set last. -/
theorem last_set_performAll
    (read : Configuration → Option α)
    (set? : Operation → Option α)
    (step :
      ∀ config operation,
        read (Configuration.perform config operation).2 = (set? operation).or (read config))
    (config : Configuration)
    (history : List Operation) :
    read (config.performAll history) = ((history.filterMap set?).getLast?).or (read config) := by
  induction history generalizing config with
  | nil =>
      rfl
  | cons operation rest inductionHypothesis =>
      have later := inductionHypothesis (config.perform operation).2
      rw [step] at later
      rw [performAll, List.foldl_cons, ← performAll, later]
      cases shape : set? operation with
      | none =>
          simp [shape]
      | some value =>
          cases behind : (rest.filterMap set?).getLast? <;>
            simp [shape, behind, List.getLast?_cons]

/-- With distinct directories, every build has the label that is found at its directory. -/
theorem labelOf_directory
    {config : Configuration}
    (distinct : config.directories.Nodup)
    {build : Build}
    (member : build ∈ config.builds) :
    config.labelOf build.directory = build.label := by
  rw [labelOf, build?_directory distinct member, Option.bind_some]

/-- A change that keeps directories changes the label of one build at most. -/
theorem labelOf_updateBuild
    {config changed : Configuration}
    (change : Build → Build)
    {directory : String}
    (keeps : ∀ build, (change build).directory = build.directory)
    (builds : changed.builds = updateBuild change directory config.builds)
    (other : String) :
    changed.labelOf other =
      if other = directory then
        (change ((config.build? directory).getD ⟨directory, none, []⟩)).label
      else config.labelOf other := by
  rw [labelOf, build?, builds, find?_updateBuild keeps]
  split
  · rfl
  · rfl

/-- A change that keeps directories and labels changes no label. -/
theorem labelOf_updateBuild_of_label_eq
    {config changed : Configuration}
    (change : Build → Build)
    {directory : String}
    (keeps : ∀ build, (change build).directory = build.directory)
    (keepsLabel : ∀ build, (change build).label = build.label)
    (builds : changed.builds = updateBuild change directory config.builds)
    (other : String) :
    changed.labelOf other = config.labelOf other := by
  rw [labelOf_updateBuild change keeps builds, keepsLabel]
  split
  · rename_i same
    subst same
    rw [labelOf]
    cases config.build? other <;> rfl
  · rfl

/-- An operation leaves a label as it is unless it sets it. -/
theorem labelOf_perform
    (directory : String)
    (config : Configuration)
    (operation : Operation) :
    (config.perform operation).2.labelOf directory =
      (operation.label? directory).or (config.labelOf directory) := by
  cases operation with
  | addBuild registered label =>
      rw [Operation.label?]
      cases label with
      | none =>
          rw [ite_self, Option.none_or]
          exact labelOf_updateBuild_of_label_eq id (fun _ => rfl) (fun _ => rfl) rfl directory
      | some label =>
          have changed :
              (config.addLabelledBuild registered label).labelOf directory =
                if directory = registered then some label else config.labelOf directory :=
            labelOf_updateBuild (fun build => { build with label := some label })
              (fun _ => rfl) rfl directory
          rw [perform, changed]
          by_cases same : directory = registered
          · rw [if_pos same, if_pos same.symm, Option.some_or]
          · rw [if_neg same, if_neg (Ne.symm same), Option.none_or]
  | addItem registered item =>
      rw [perform, putItem_eq, Operation.label?, Option.none_or]
      split
      · rfl
      · exact labelOf_updateBuild_of_label_eq
          (fun build => { build with items := build.items ++ [item] })
          (fun _ => rfl) (fun _ => rfl) rfl directory
  | setGlobalFlavors flavors =>
      rfl
  | setGlobalSubmitter flavor submitter =>
      rfl

/-- After a history a build has the label that was set last. -/
theorem labelOf_performAll
    (config : Configuration)
    (history : List Operation)
    (directory : String) :
    (config.performAll history).labelOf directory =
      ((history.filterMap (Operation.label? directory)).getLast?).or (config.labelOf directory) :=
  last_set_performAll (fun config => config.labelOf directory) (Operation.label? directory)
    (labelOf_perform directory) config history

/-- An operation leaves the schema as it is. -/
theorem schema_perform
    (config : Configuration)
    (operation : Operation) :
    (config.perform operation).2.schema = config.schema := by
  cases operation with
  | addBuild directory label =>
      cases label <;> rfl
  | addItem directory item =>
      rw [perform, putItem_eq]
      split <;> rfl
  | setGlobalFlavors flavors =>
      rfl
  | setGlobalSubmitter flavor submitter =>
      rfl

/-- An operation leaves the global flavors as they are unless it sets them. -/
theorem globalFlavors_perform
    (config : Configuration)
    (operation : Operation) :
    some (config.perform operation).2.globalFlavors =
      operation.globalFlavors?.or (some config.globalFlavors) := by
  cases operation with
  | addBuild directory label =>
      cases label <;> rfl
  | addItem directory item =>
      rw [perform, putItem_eq]
      split <;> rfl
  | setGlobalFlavors flavors =>
      rfl
  | setGlobalSubmitter flavor submitter =>
      rfl

/-- After a history the global flavors are those that were set last. -/
theorem globalFlavors_performAll
    (config : Configuration)
    (history : List Operation) :
    some (config.performAll history).globalFlavors =
      ((history.filterMap Operation.globalFlavors?).getLast?).or (some config.globalFlavors) :=
  last_set_performAll (fun config => some config.globalFlavors) Operation.globalFlavors?
    globalFlavors_perform config history

/-- An operation leaves the submitter of a flavor as it is unless it sets it. -/
theorem globalSubmitter?_perform
    (flavor : String)
    (config : Configuration)
    (operation : Operation) :
    (config.perform operation).2.globalSubmitter? flavor =
      (operation.submitter? flavor).or (config.globalSubmitter? flavor) := by
  cases operation with
  | addBuild directory label =>
      cases label <;> rfl
  | addItem directory item =>
      rw [perform, putItem_eq]
      split <;> rfl
  | setGlobalFlavors flavors =>
      rfl
  | setGlobalSubmitter set submitter =>
      have found := SortedTable.get?_insert config.globalSubmitters set submitter flavor
      rw [Operation.submitter?]
      by_cases same : flavor = set
      · rw [if_pos same] at found ⊢
        exact found
      · rw [if_neg same] at found ⊢
        exact found

/-- After a history a flavor has the submitter that was set last. -/
theorem globalSubmitter?_performAll
    (config : Configuration)
    (history : List Operation)
    (flavor : String) :
    (config.performAll history).globalSubmitter? flavor =
      ((history.filterMap (Operation.submitter? flavor)).getLast?).or
        (config.globalSubmitter? flavor) :=
  last_set_performAll (fun config => config.globalSubmitter? flavor) (Operation.submitter? flavor)
    (globalSubmitter?_perform flavor) config history

/-- No history changes the schema. -/
theorem schema_performAll
    (config : Configuration)
    (history : List Operation) :
    (config.performAll history).schema = config.schema := by
  induction history generalizing config with
  | nil =>
      rfl
  | cons operation rest inductionHypothesis =>
      exact (inductionHypothesis (config.perform operation).2).trans
        (schema_perform config operation)

end Configuration

end BenchmarkOrchestration
