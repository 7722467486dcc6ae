import BenchmarkOrchestration.Arguments.Format
import BenchmarkOrchestration.Model.Configuration

namespace BenchmarkOrchestration

/-!
# Configurations in documents

A loaded configuration can be written as a document and read back.  Entries of a record that may
be absent are written as null.  The global submitters are an object in the order of its keys.
-/

namespace Schema

/-- The schema as a value of a document. -/
def encode
    (schema : Schema) :
    Json.Value :=
  .text schema.name

/-- The schema that a value of a document names. -/
def decode?
    (value : Json.Value) :
    Option Schema := do
  let name ← value.bareAlternative?
  if name = Schema.legacy.name then some .legacy
  else if name = Schema.simplified.name then some .simplified
  else none

end Schema

namespace FilterMode

/-- The mode as a value of a document. -/
def encode : FilterMode → Json.Value
  | .compileTime => .text "CompileTime"
  | .runtime => .text "Runtime"
  | .other spelling => .object [("Other", .text spelling)]

/-- The mode that a value of a document holds. -/
def decode?
    (value : Json.Value) :
    Option FilterMode :=
  match value.alternative? with
  | some ("Other", some carried) => carried.text?.map .other
  | _ => do
      let name ← value.bareAlternative?
      if name = "CompileTime" then some .compileTime
      else if name = "Runtime" then some .runtime
      else none

end FilterMode

namespace FunctorDirectories

/-- The directories as a value of a document. -/
def encode
    (functors : FunctorDirectories) :
    Json.Value :=
  .object
    [ ("builder", .text functors.build),
      ("cleaner", .text functors.clean),
      ("runner", .text functors.run),
      ("analyzer", .text functors.analyze) ]

/-- The directories that a value of a document holds. -/
def decode?
    (value : Json.Value) :
    Option FunctorDirectories :=
  match value.entries? ["builder", "cleaner", "runner", "analyzer"] 0 with
  | some [some build, some clean, some run, some analyze] => do
      some ⟨← build.text?, ← clean.text?, ← run.text?, ← analyze.text?⟩
  | _ => none

end FunctorDirectories

namespace RunArguments

/-- The arguments as a value of a document. -/
def encode : RunArguments → Json.Value
  | .mapped mapping => .object [("Mapped", mapping.encode)]
  | .listed values => .object [("Listed", .array values)]

/-- The arguments that a value of a document holds. -/
def decode?
    (value : Json.Value) :
    Option RunArguments :=
  match value.alternative? with
  | some ("Mapped", some carried) => (ArgumentMapping.decode carried).toOption.map .mapped
  | some ("Listed", some carried) => carried.elements?.map .listed
  | _ => none

end RunArguments

namespace Item

/-- The names of the entries of an item, in the order in which they are written. -/
def entryNames : List String :=
  [ "name", "benchmark_name", "flavors", "analyzer_dir", "cubes_dir", "functors", "mode",
    "run_options", "analyzer_functor", "slurm_analysis_functor", "submitter", "batch_script" ]

/-- The item as a value of a document. -/
def encode
    (item : Item) :
    Json.Value :=
  .object
    [ ("name", .text item.name),
      ("benchmark_name", .text item.benchmark),
      ("flavors", .ofTexts item.flavors),
      ("analyzer_dir", .text item.analyzerDirectory),
      ("cubes_dir", .text item.profileDirectory),
      ("functors", item.functors.encode),
      ("mode", (item.mode.map FilterMode.encode).getD .null),
      ("run_options", item.arguments.encode),
      ("analyzer_functor", .ofOptionalText item.analysisFunctor),
      ("slurm_analysis_functor", .ofOptionalText item.slurmFunctor),
      ("submitter", .ofOptionalText item.submitter),
      ("batch_script", .ofOptionalText item.batchScript) ]

/-- The item that a value of a document holds. -/
def decode?
    (value : Json.Value) :
    Option Item :=
  match value.entries? entryNames 0 with
  | some
      [ some name, some benchmark, some flavors, some analyzerDirectory, some profileDirectory,
        some functors, mode, some arguments, analysisFunctor, slurmFunctor, submitter,
        batchScript ] => do
      some
        { name := ← name.text?
          benchmark := ← benchmark.text?
          flavors := ← flavors.texts?
          analyzerDirectory := ← analyzerDirectory.text?
          profileDirectory := ← profileDirectory.text?
          functors := ← FunctorDirectories.decode? functors
          mode := ← Json.Value.optional? FilterMode.decode? mode
          arguments := ← RunArguments.decode? arguments
          analysisFunctor := ← Json.Value.optional? Json.Value.text? analysisFunctor
          slurmFunctor := ← Json.Value.optional? Json.Value.text? slurmFunctor
          submitter := ← Json.Value.optional? Json.Value.text? submitter
          batchScript := ← Json.Value.optional? Json.Value.text? batchScript }
  | _ => none

end Item

namespace Build

/-- The build as a value of a document. -/
def encode
    (build : Build) :
    Json.Value :=
  .object
    [ ("directory", .text build.directory),
      ("prefix", .ofOptionalText build.label),
      ("items", .array (build.items.map Item.encode)) ]

/-- The build that a value of a document holds. -/
def decode?
    (value : Json.Value) :
    Option Build :=
  match value.entries? ["directory", "prefix", "items"] 0 with
  | some [some directory, label, some items] => do
      some
        { directory := ← directory.text?
          label := ← Json.Value.optional? Json.Value.text? label
          items := ← (← items.elements?).mapM Item.decode? }
  | _ => none

end Build

namespace SortedTable

/-- The table as an object of a document. -/
def encode
    (table : SortedTable) :
    Json.Value :=
  .object (table.entries.map fun (key, value) => (key, .text value))

/-- The table that an object of a document holds. -/
def decode?
    (value : Json.Value) :
    Option SortedTable := do
  let pairs ← (← value.fields?).mapM fun (key, carried) => do
    return (key, ← carried.text?)
  some (ofPairs pairs)

end SortedTable

namespace Configuration

/-- The configuration as a document. -/
def encode
    (config : Configuration) :
    Json.Value :=
  .object
    [ ("schema", config.schema.encode),
      ("builds", .array (config.builds.map Build.encode)),
      ("global_flavors", .ofTexts config.globalFlavors),
      ("global_submitters", config.globalSubmitters.encode) ]

/-- The configuration that a document holds. -/
def decode?
    (value : Json.Value) :
    Option Configuration :=
  match value.entries? ["schema", "builds", "global_flavors", "global_submitters"] 0 with
  | some [some schema, some builds, some globalFlavors, some globalSubmitters] => do
      some
        { schema := ← Schema.decode? schema
          builds := ← (← builds.elements?).mapM Build.decode?
          globalFlavors := ← globalFlavors.texts?
          globalSubmitters := ← SortedTable.decode? globalSubmitters }
  | _ => none

end Configuration

end BenchmarkOrchestration
