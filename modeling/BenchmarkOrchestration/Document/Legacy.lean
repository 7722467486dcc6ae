import BenchmarkOrchestration.Document.Field
import BenchmarkOrchestration.Model.Configuration
import BenchmarkOrchestration.Naming.FunctorName

namespace BenchmarkOrchestration

/-!
# Documents of the legacy schema

The document lists build directories and global flavors, and describes every build by tables that
are indexed by the keys of its items: functors that build, functors that analyze, run settings and
flavors.  Every entry that a listed item needs must be there.
-/

namespace Document.Legacy

/-- The context in which entries of the top-level description are reported missing. -/
def descriptionContext : String := "description"

/-- The entry of an analysis record at a position. -/
def analysisEntry
    (record : List String)
    (key : String)
    (position : Nat) :
    Except DocumentFault String :=
  match record[position]? with
  | some entry => .ok entry
  | none => .error (.missingField s!"instrument-analysis[{position}]" key)

/--
The item of a key, from the tables of its build.  An analysis record holds the functor, the
directory of the experiments, the directory of the analyzer and optionally a functor for batch
jobs, in this order.
-/
def item
    (tables : Json.Value)
    (key : String) :
    Except DocumentFault Item := do
  let analyses ← field tables "instrument-analysis" "flavors"
  let analysis ← textsField analyses key "instrument-analysis"
  let analyze ← analysisEntry analysis key 0
  let profileDirectory ← analysisEntry analysis key 1
  let analyzerDirectory ← analysisEntry analysis key 2
  let build ← textField (← field tables "builders" "flavors") key "builders"
  let settings ← field (← field tables "run" "flavors") key "run"
  let values := ArgumentValue.sequence (← field settings "args" key)
  let run ← textField settings "runner" key
  let submitter ← textField settings "submitter" key
  let batchScript ← textField settings "batch_script" key
  let flavors ← textsField tables key "flavors"
  return { Item.plain key ⟨build, build, run, analyze⟩ (.listed values) with
    benchmark := benchmarkOfKey key
    flavors
    analyzerDirectory
    profileDirectory
    analysisFunctor := some analyze
    slurmFunctor := analysis[3]?
    submitter := some submitter
    batchScript := some batchScript }

/-- Add the items of one build. -/
def addItems
    (directory : String)
    (tables : Json.Value) :
    List String → Configuration → Except DocumentFault Configuration
  | [], config => .ok config
  | key :: rest, config => do
      let config ← config.addItem directory (← item tables key)
      addItems directory tables rest config

/-- Add the listed builds one after the other. -/
def addBuilds
    (builds : List (String × Json.Value)) :
    List String → Configuration → Except DocumentFault Configuration
  | [], config => .ok config
  | directory :: rest, config => do
      let tree ← field (.object builds) directory "builds"
      let label ← textField tree "prefix" directory
      let tables ← field tree "flavors" directory
      let keys ← textsField tree "items" directory
      let config ← addItems directory tables keys (config.addLabelledBuild directory label)
      addBuilds builds rest config

/-- Set the submitter of every global flavor. -/
def addSubmitters
    (submitters : Json.Value) :
    List String → Configuration → Except DocumentFault Configuration
  | [], config => .ok config
  | flavor :: rest, config => do
      let submitter ← textField submitters flavor "glob-submitter"
      addSubmitters submitters rest (config.setGlobalSubmitter flavor submitter)

/-- The configuration that a document of the legacy schema describes. -/
def configuration
    (tree : Json.Value) :
    Except DocumentFault Configuration := do
  let description ← field tree "description" "root"
  let directories ← textsField description "directories" descriptionContext
  let flavors ← textsField description "glob-flavors" descriptionContext
  let submitters ← field description "glob-submitter" descriptionContext
  let config ← addSubmitters submitters flavors (.empty .legacy)
  let builds ← objectField description "builds" descriptionContext
  addBuilds builds directories (config.setGlobalFlavors flavors)

end Document.Legacy

end BenchmarkOrchestration
