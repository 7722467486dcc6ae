import BenchmarkOrchestration.Model.Query
import BenchmarkOrchestration.Proofs.Document.LegacyItem

namespace BenchmarkOrchestration.Document.Legacy

/-!
# What a configuration answers about its items

A configuration of the legacy schema is asked about an item by its directory and its key.  Whatever
is asked for, the answer is what the tables of the build hold under the key.
-/

/-- An item is found under its key, and all that is asked about it is what the tables hold. -/
structure AnswersForItem
    (config : Configuration)
    (directory : String)
    (tables : Json.Value)
    (key : String)
    (item : Item) :
    Prop where
  found : config.item directory key = .ok item
  describes : DescribesItem tables key item
  arguments :
    ∃ values, valueAt? tables ["run", key, "args"] = some values ∧
      config.arguments directory key =
        .ok ((ArgumentValue.sequence values).map ArgumentValue.render)
  expandedArguments :
    ∃ values, valueAt? tables ["run", key, "args"] = some values ∧
      ∀ overflow,
        config.expandedArguments overflow directory key =
          .ok (.ok ((ArgumentValue.sequence values).map ArgumentValue.render))
  analysisFunctor :
    ∃ record, (valueAt? tables ["instrument-analysis", key]).map textsOf = some record ∧
      record[0]? = some item.analysisFunctorOrDirectory
  analysisFunctor_eq : item.analysisFunctorOrDirectory = item.functors.analyze
  slurmAnalysis :
    ∃ record, (valueAt? tables ["instrument-analysis", key]).map textsOf = some record ∧
      item.slurmAnalysis =
        match record[3]? with
        | some functor => .ok functor
        | none => .error (.missingEntry key "slurm analysis functor")
  isSubmitted :
    ∃ submitter, (valueAt? tables ["run", key, "submitter"]).map textOf = some submitter ∧
      (item.isSubmitted = true ↔ submitter ≠ "")
  hasLocalFlavors :
    ∃ flavors, (tables.get? key).map textsOf = some flavors ∧
      (item.hasLocalFlavors = true ↔ flavors ≠ [])
  declaresFlavor :
    ∃ flavors, (tables.get? key).map textsOf = some flavors ∧
      ∀ flavor, item.declaresFlavor flavor = true ↔ flavor ∈ flavors

section

variable
  {tables : Json.Value}
  {key : String}
  {item : Item}
  (describes : DescribesItem tables key item)

include describes

/-- The arguments of an item are the leaves of its entry, and there is always room for them. -/
theorem DescribesItem.exists_values :
    ∃ values, valueAt? tables ["run", key, "args"] = some values ∧
      item.arguments = .listed (ArgumentValue.sequence values) := by
  obtain ⟨values, gives, listed⟩ := Option.map_eq_some_iff.mp describes.arguments
  exact ⟨values, gives, listed.symm⟩

/-- The functor of the batch job is the fourth entry of the record, if there is one. -/
theorem DescribesItem.slurmAnalysis :
    ∃ record, (valueAt? tables ["instrument-analysis", key]).map textsOf = some record ∧
      item.slurmAnalysis =
        match record[3]? with
        | some functor => .ok functor
        | none => .error (.missingEntry key "slurm analysis functor") := by
  obtain ⟨record, isRecord, _, _, _, slurm⟩ := describes.analysis
  refine ⟨record, isRecord, ?_⟩
  rw [slurm]
  cases functor : item.slurmFunctor <;> simp only [Item.slurmAnalysis, functor, describes.name]

/-- An item is submitted exactly if its entry names a submitter. -/
theorem DescribesItem.isSubmitted :
    ∃ submitter, (valueAt? tables ["run", key, "submitter"]).map textOf = some submitter ∧
      (item.isSubmitted = true ↔ submitter ≠ "") := by
  obtain ⟨submitter, gives, isSubmitter⟩ := describes.submitter
  refine ⟨submitter, gives, ?_⟩
  rw [Item.isSubmitted, isSubmitter]
  exact decide_eq_true_iff

/-- An item that is found under its key answers with what the tables hold. -/
theorem DescribesItem.answersForItem
    {config : Configuration}
    {directory : String}
    (found : config.item directory key = .ok item) :
    AnswersForItem config directory tables key item := by
  obtain ⟨values, givesValues, listed⟩ := describes.exists_values
  obtain ⟨record, isRecord, first, _⟩ := describes.analysis
  have analyze : item.analysisFunctorOrDirectory = item.functors.analyze := by
    rw [Item.analysisFunctorOrDirectory, describes.analysisFunctor, Option.getD_some]
  exact {
    found := found
    describes := describes
    arguments := by
      refine ⟨values, givesValues, ?_⟩
      rw [Configuration.arguments, found]
      change Except.ok item.arguments.asList = _
      rw [listed]
      rfl
    expandedArguments := by
      refine ⟨values, givesValues, fun overflow => ?_⟩
      rw [Configuration.expandedArguments, found]
      change Except.ok (item.arguments.expand overflow) = _
      rw [listed]
      rfl
    analysisFunctor := by
      refine ⟨record, isRecord, ?_⟩
      rw [analyze]
      exact first
    analysisFunctor_eq := analyze
    slurmAnalysis := describes.slurmAnalysis
    isSubmitted := describes.isSubmitted
    hasLocalFlavors := by
      refine ⟨item.flavors, describes.flavors, ?_⟩
      rw [Item.hasLocalFlavors, Bool.not_eq_true', List.isEmpty_eq_false_iff]
    declaresFlavor := by
      refine ⟨item.flavors, describes.flavors, fun flavor => ?_⟩
      rw [Item.declaresFlavor, List.contains_iff_mem] }

end

end BenchmarkOrchestration.Document.Legacy
