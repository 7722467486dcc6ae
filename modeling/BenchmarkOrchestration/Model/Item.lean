import BenchmarkOrchestration.Arguments.Expansion

namespace BenchmarkOrchestration

/-!
# Items

An item is one benchmark inside a build: where its functors are found, how it is instrumented, in
which flavors it exists and with which arguments it is run.
-/

/-- Which generation of documents a configuration was read from. -/
inductive Schema where
  | legacy
  | simplified
  deriving Repr, DecidableEq

namespace Schema

/-- The name of the schema. -/
def name : Schema → String
  | .legacy => "legacy"
  | .simplified => "simplified"

end Schema

/-- When the instrumentation of an item is filtered; unknown modes keep their spelling. -/
inductive FilterMode where
  | compileTime
  | runtime
  | other (spelling : String)
  deriving Repr, DecidableEq

namespace FilterMode

/-- The mode that a text names, in any case of ASCII letters. -/
def ofText
    (text : String) :
    FilterMode :=
  let lowered := text.toLower
  if lowered ∈ ["ct", "compile-time", "compile_time"] then .compileTime
  else if lowered ∈ ["rt", "runtime", "run-time"] then .runtime
  else .other text

/-- Whether the filter is applied when compiling. -/
def isCompileTime : FilterMode → Bool
  | .compileTime => true
  | _ => false

/-- The text shown for the mode. -/
def text : FilterMode → String
  | .compileTime => "CT"
  | .runtime => "RT"
  | .other spelling => spelling

end FilterMode

/-- The directories in which the functors of an item are looked up. -/
structure FunctorDirectories where
  build : String
  clean : String
  run : String
  analyze : String
  deriving Repr, DecidableEq

namespace FunctorDirectories

/-- One directory for all functors. -/
def uniform
    (directory : String) :
    FunctorDirectories :=
  ⟨directory, directory, directory, directory⟩

end FunctorDirectories

/-- The arguments of an item: a table to expand, or one argument after the other. -/
inductive RunArguments where
  | mapped (mapping : ArgumentMapping)
  | listed (values : List Json.Value)
  deriving DecidableEq

namespace RunArguments

/-- The invocation arguments as texts. -/
def asList : RunArguments → List String
  | .mapped mapping => mapping.asList
  | .listed values => values.map ArgumentValue.render

/-- The panic of an expansion; there is none where no table is expanded. -/
def panic?
    (overflow : Overflow) :
    RunArguments → Option ExpansionPanic
  | .mapped mapping => mapping.panic? overflow
  | .listed _ => none

/-- The invocation arguments as a build of the program lists them. -/
def expand
    (overflow : Overflow)
    (arguments : RunArguments) :
    Except ExpansionPanic (List String) :=
  match arguments.panic? overflow with
  | some panic => .error panic
  | none => .ok arguments.asList

end RunArguments

/--
One benchmark of a build.  `benchmark` is the name under which its functors and files are found.
The functor and script names at the end are known for items of the legacy schema only.
-/
structure Item where
  name : String
  benchmark : String
  flavors : List String
  analyzerDirectory : String
  profileDirectory : String
  functors : FunctorDirectories
  mode : Option FilterMode
  arguments : RunArguments
  analysisFunctor : Option String
  slurmFunctor : Option String
  submitter : Option String
  batchScript : Option String
  deriving DecidableEq

namespace Item

/-- An item with nothing but a name, its functors and its arguments. -/
def plain
    (name : String)
    (functors : FunctorDirectories)
    (arguments : RunArguments) :
    Item where
  name := name
  benchmark := name
  flavors := []
  analyzerDirectory := ""
  profileDirectory := ""
  functors := functors
  mode := none
  arguments := arguments
  analysisFunctor := none
  slurmFunctor := none
  submitter := none
  batchScript := none

/-- Whether the item exists in a flavor. -/
def declaresFlavor
    (item : Item)
    (flavor : String) :
    Bool :=
  item.flavors.contains flavor

end Item

end BenchmarkOrchestration
