import BenchmarkOrchestration.Document.Legacy
import BenchmarkOrchestration.Proofs.Document.Results
import BenchmarkOrchestration.Proofs.Naming.LastComponent

namespace BenchmarkOrchestration.Document.Legacy

/-!
# What tables say about an item

An item of the legacy schema is put together from the entries of its key in three tables, and from
the flavors that stand beside these tables under the key itself.  It is read exactly if none of them
is missing, and every part of it is then what stands at its place.
-/

/-- The tables of a build have everything that the item of a key needs. -/
structure CompleteItem
    (tables : Json.Value)
    (key : String) :
    Prop where
  analysis :
    ∃ record, (valueAt? tables ["instrument-analysis", key]).map textsOf = some record ∧
      3 ≤ record.length
  builders : (valueAt? tables ["builders", key]).isSome
  args : (valueAt? tables ["run", key, "args"]).isSome
  runner : (valueAt? tables ["run", key, "runner"]).isSome
  submitter : (valueAt? tables ["run", key, "submitter"]).isSome
  batchScript : (valueAt? tables ["run", key, "batch_script"]).isSome
  flavors : (tables.get? key).isSome

/-- An item is what the tables of its build say about its key. -/
structure DescribesItem
    (tables : Json.Value)
    (key : String)
    (item : Item) :
    Prop where
  name : item.name = key
  benchmark : IsLastComponent key item.benchmark
  flavors : (tables.get? key).map textsOf = some item.flavors
  analysis :
    ∃ record, (valueAt? tables ["instrument-analysis", key]).map textsOf = some record ∧
      record[0]? = some item.functors.analyze ∧
      record[1]? = some item.profileDirectory ∧
      record[2]? = some item.analyzerDirectory ∧
      record[3]? = item.slurmFunctor
  analysisFunctor : item.analysisFunctor = some item.functors.analyze
  build : (valueAt? tables ["builders", key]).map textOf = some item.functors.build
  clean : (valueAt? tables ["builders", key]).map textOf = some item.functors.clean
  run : (valueAt? tables ["run", key, "runner"]).map textOf = some item.functors.run
  arguments :
    (valueAt? tables ["run", key, "args"]).map
        (fun values => .listed (ArgumentValue.sequence values)) =
      some item.arguments
  submitter :
    ∃ submitter, (valueAt? tables ["run", key, "submitter"]).map textOf = some submitter ∧
      item.submitter = some submitter
  batchScript :
    ∃ script, (valueAt? tables ["run", key, "batch_script"]).map textOf = some script ∧
      item.batchScript = some script
  mode : item.mode = none

/-- The position of an analysis record holds an entry exactly if the record is long enough. -/
theorem analysisEntry_eq_ok_iff
    {record : List String}
    {key entry : String}
    {position : Nat} :
    analysisEntry record key position = .ok entry ↔ record[position]? = some entry := by
  rw [analysisEntry]
  cases record[position]? <;> simp

/-- An item is read from the tables exactly if they describe it. -/
theorem item_eq_ok_iff
    {tables : Json.Value}
    {key : String}
    {result : Item} :
    item tables key = .ok result ↔ DescribesItem tables key result := by
  simp only [item, bind_eq_ok_iff, pure_eq_ok_iff, textField_eq_ok_iff, textsField_eq_ok_iff,
    field_eq_ok_iff, analysisEntry_eq_ok_iff]
  constructor
  · rintro ⟨analyses, givesAnalyses, record, givesRecord, analyze, givesAnalyze, profiles,
      givesProfiles, analyzers, givesAnalyzers, builders, givesBuilders, build, givesBuild, runs,
      givesRuns, settings, givesSettings, values, givesValues, run, givesRun, submitter,
      givesSubmitter, batchScript, givesBatchScript, flavors, givesFlavors, rfl⟩
    have isRecord : (valueAt? tables ["instrument-analysis", key]).map textsOf = some record := by
      rwa [valueAt?_cons givesAnalyses, valueAt?_singleton]
    have isBuild : (valueAt? tables ["builders", key]).map textOf = some build := by
      rwa [valueAt?_cons givesBuilders, valueAt?_singleton]
    have isSetting : ∀ name, valueAt? tables ["run", key, name] = settings.get? name := by
      intro name
      rw [valueAt?_cons givesRuns, valueAt?_cons givesSettings, valueAt?_singleton]
    exact {
      name := rfl
      benchmark := benchmarkOfKey_eq_iff.mp rfl
      flavors := givesFlavors
      analysis := ⟨record, isRecord, givesAnalyze, givesProfiles, givesAnalyzers, rfl⟩
      analysisFunctor := rfl
      build := isBuild
      clean := isBuild
      run := (congrArg _ (isSetting "runner")).trans givesRun
      arguments := by rw [isSetting, givesValues]; rfl
      submitter := ⟨submitter, (congrArg _ (isSetting "submitter")).trans givesSubmitter, rfl⟩
      batchScript :=
        ⟨batchScript, (congrArg _ (isSetting "batch_script")).trans givesBatchScript, rfl⟩
      mode := rfl }
  · intro describes
    obtain ⟨record, isRecord, analyze, profiles, analyzers, slurm⟩ := describes.analysis
    obtain ⟨analyses, givesAnalyses, givesRecord⟩ := map_valueAt?_cons_eq_some_iff.mp isRecord
    obtain ⟨builders, givesBuilders, givesBuild⟩ := map_valueAt?_cons_eq_some_iff.mp describes.build
    obtain ⟨runs, givesRuns, ofRun⟩ := map_valueAt?_cons_eq_some_iff.mp describes.run
    obtain ⟨settings, givesSettings, givesRun⟩ := map_valueAt?_cons_eq_some_iff.mp ofRun
    obtain ⟨values, givesValues, arguments⟩ := Option.map_eq_some_iff.mp describes.arguments
    obtain ⟨submitter, givesSubmitter, isSubmitter⟩ := describes.submitter
    obtain ⟨batchScript, givesBatchScript, isBatchScript⟩ := describes.batchScript
    rw [valueAt?_singleton] at givesRecord givesBuild givesRun
    simp only [valueAt?_cons givesRuns, valueAt?_cons givesSettings, valueAt?_singleton]
      at givesValues givesSubmitter givesBatchScript
    have clean := Option.some.inj (describes.build.symm.trans describes.clean)
    refine ⟨analyses, givesAnalyses, record, givesRecord, _, analyze, _, profiles, _, analyzers,
      builders, givesBuilders, _, givesBuild, runs, givesRuns, settings, givesSettings, values,
      givesValues, _, givesRun, submitter, givesSubmitter, batchScript, givesBatchScript, _,
      describes.flavors, ?_⟩
    rcases result with ⟨_, _, _, _, _, ⟨_, _, _, _⟩, _, _, _, _, _, _⟩
    simp only [Item.plain, Item.mk.injEq, FunctorDirectories.mk.injEq, true_and, and_true]
    exact ⟨describes.name.symm, benchmarkOfKey_eq_iff.mpr describes.benchmark, clean,
      describes.mode.symm, arguments, describes.analysisFunctor.symm, slurm, isSubmitter.symm,
      isBatchScript.symm⟩

/-- Tables describe an item of a key exactly if they have everything that it needs. -/
theorem exists_describesItem_iff
    {tables : Json.Value}
    {key : String} :
    (∃ result, DescribesItem tables key result) ↔ CompleteItem tables key := by
  constructor
  · rintro ⟨result, describes⟩
    obtain ⟨record, isRecord, _, _, third, _⟩ := describes.analysis
    obtain ⟨submitter, givesSubmitter, _⟩ := describes.submitter
    obtain ⟨batchScript, givesBatchScript, _⟩ := describes.batchScript
    exact {
      analysis := ⟨record, isRecord, (List.getElem?_eq_some_iff.mp third).1⟩
      builders := exists_map_eq_some_iff.mp ⟨_, describes.build⟩
      args := exists_map_eq_some_iff.mp ⟨_, describes.arguments⟩
      runner := exists_map_eq_some_iff.mp ⟨_, describes.run⟩
      submitter := exists_map_eq_some_iff.mp ⟨_, givesSubmitter⟩
      batchScript := exists_map_eq_some_iff.mp ⟨_, givesBatchScript⟩
      flavors := exists_map_eq_some_iff.mp ⟨_, describes.flavors⟩ }
  · rintro ⟨⟨record, isRecord, long⟩, builders, args, runner, submitter, batchScript, flavors⟩
    obtain ⟨builders, givesBuilders⟩ := Option.isSome_iff_exists.mp builders
    obtain ⟨args, givesArgs⟩ := Option.isSome_iff_exists.mp args
    obtain ⟨runner, givesRunner⟩ := Option.isSome_iff_exists.mp runner
    obtain ⟨submitter, givesSubmitter⟩ := Option.isSome_iff_exists.mp submitter
    obtain ⟨batchScript, givesBatchScript⟩ := Option.isSome_iff_exists.mp batchScript
    obtain ⟨flavors, givesFlavors⟩ := Option.isSome_iff_exists.mp flavors
    have isBuild := congrArg (Option.map textOf) givesBuilders
    exact ⟨{
      name := key
      benchmark := benchmarkOfKey key
      flavors := textsOf flavors
      analyzerDirectory := record[2]
      profileDirectory := record[1]
      functors := ⟨textOf builders, textOf builders, textOf runner, record[0]⟩
      mode := none
      arguments := .listed (ArgumentValue.sequence args)
      analysisFunctor := some record[0]
      slurmFunctor := record[3]?
      submitter := some (textOf submitter)
      batchScript := some (textOf batchScript) }, {
      name := rfl
      benchmark := benchmarkOfKey_eq_iff.mp rfl
      flavors := congrArg (Option.map textsOf) givesFlavors
      analysis :=
        ⟨record, isRecord, List.getElem?_eq_getElem _, List.getElem?_eq_getElem _,
          List.getElem?_eq_getElem _, rfl⟩
      analysisFunctor := rfl
      build := isBuild
      clean := isBuild
      run := congrArg (Option.map textOf) givesRunner
      arguments := congrArg (Option.map _) givesArgs
      submitter := ⟨_, congrArg (Option.map textOf) givesSubmitter, rfl⟩
      batchScript := ⟨_, congrArg (Option.map textOf) givesBatchScript, rfl⟩
      mode := rfl }⟩

/-- Tables describe one item of a key at most. -/
theorem describesItem_rightUnique
    (tables : Json.Value) :
    Relator.RightUnique (DescribesItem tables) := by
  intro key first second describesFirst describesSecond
  rw [← item_eq_ok_iff] at describesFirst describesSecond
  exact Except.ok.inj (describesFirst.symm.trans describesSecond)

end BenchmarkOrchestration.Document.Legacy
