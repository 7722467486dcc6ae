import BenchmarkOrchestration.Model.Query
import BenchmarkOrchestration.Orchestration.Facilities
import BenchmarkOrchestration.Orchestration.Failure

namespace BenchmarkOrchestration

/-!
# The run matrix

For every flavor and every item that declares it, the run functor of the item writes a script and
prints its path.  Run functors are always invoked actively, with the arguments of the item.  The
first failure ends the generation, and so does the first item whose arguments have no room.
-/

/-- A generated script for one benchmark in one flavor. -/
structure RunEntry where
  build : String
  benchmark : String
  flavor : String
  script : String
  arguments : List String
  deriving Repr, DecidableEq

namespace RunMatrix

/-- The options that tell run functors how often to repeat a run, and for which document. -/
def withInvocation
    (options : SortedTable)
    (documentPath : String)
    (repetitions : Nat) :
    SortedTable :=
  (options.insert "repetitions" (toString repetitions)).insert "config" documentPath

/-- The options that tell run functors where experiments for performance models go. -/
def withExperiments
    (options : SortedTable)
    (directory label : String) :
    SortedTable :=
  (options.insert "extrap_dir" directory).insert "extrap_prefix" label

/-- Every flavor with each build and item that declares it, flavor after flavor. -/
def cells
    (config : Configuration) :
    List (String × String × Item) :=
  config.allFlavors.flatMap fun flavor =>
    config.builds.flatMap fun build =>
      (build.items.filter fun item => item.declaresFlavor flavor).map fun item =>
        (flavor, build.directory, item)

/-- The name of the run functor of an item in a flavor. -/
def functorName
    (item : Item)
    (flavor : String) :
    FunctorName :=
  .plain .run item.benchmark flavor

/-- The entry of one cell. -/
def entry
    (facilities : Facilities σ ι)
    (options : SortedTable)
    (cell : String × String × Item) :
    Orchestrate σ (Except Failure RunEntry) := do
  let (flavor, directory, item) := cell
  let name := functorName item flavor
  let arguments := item.arguments.asList
  match ← facilities.resolveFunctor item.functors.run name with
  | .error fault => return .error (.functor fault)
  | .ok functor =>
  match ← facilities.invokeFunctor functor .active ⟨item.benchmark, directory, options, arguments⟩
    with
  | .error fault => return .error (.functor fault)
  | .ok "" =>
      return .error (.functor (.protocol name.fileName "run generator printed no script path"))
  | .ok script => return .ok ⟨directory, item.benchmark, flavor, script, arguments⟩

/-- The entries of the cells, up to the first failure. -/
def entries
    (facilities : Facilities σ ι)
    (options : SortedTable) :
    List (String × String × Item) → Orchestrate σ (Except Failure (List RunEntry))
  | [] => return .ok []
  | cell :: rest => do
      match ← entry facilities options cell with
      | .error failure => return .error failure
      | .ok first =>
          match ← entries facilities options rest with
          | .error failure => return .error failure
          | .ok others => return .ok (first :: others)

/--
The entry of one cell in a build of the program.  A functor is resolved before the arguments for it
are expanded, and only the expansion panics.
-/
def entryOrPanic
    (overflow : Overflow)
    (facilities : Facilities σ ι)
    (options : SortedTable)
    (cell : String × String × Item) :
    Orchestrate σ (Except ExpansionPanic (Except Failure RunEntry)) := do
  let (flavor, _, item) := cell
  match item.arguments.panic? overflow with
  | none => return .ok (← entry facilities options cell)
  | some panic =>
      match ← facilities.resolveFunctor item.functors.run (functorName item flavor) with
      | .error fault => return .ok (.error (.functor fault))
      | .ok _ => return .error panic

/-- The entries of the cells in a build of the program, up to the first failure or panic. -/
def entriesOrPanic
    (overflow : Overflow)
    (facilities : Facilities σ ι)
    (options : SortedTable) :
    List (String × String × Item) →
      Orchestrate σ (Except ExpansionPanic (Except Failure (List RunEntry)))
  | [] => return .ok (.ok [])
  | cell :: rest => do
      match ← entryOrPanic overflow facilities options cell with
      | .error panic => return .error panic
      | .ok (.error failure) => return .ok (.error failure)
      | .ok (.ok first) =>
          match ← entriesOrPanic overflow facilities options rest with
          | .error panic => return .error panic
          | .ok (.error failure) => return .ok (.error failure)
          | .ok (.ok others) => return .ok (.ok (first :: others))

end RunMatrix

namespace Configuration

/-- The run matrix of a configuration. -/
def runMatrix
    (config : Configuration)
    (facilities : Facilities σ ι)
    (options : SortedTable) :
    Orchestrate σ (Except Failure (List RunEntry)) :=
  RunMatrix.entries facilities options (RunMatrix.cells config)

/-- The run matrix of a configuration in a build of the program. -/
def runMatrixOrPanic
    (overflow : Overflow)
    (config : Configuration)
    (facilities : Facilities σ ι)
    (options : SortedTable) :
    Orchestrate σ (Except ExpansionPanic (Except Failure (List RunEntry))) :=
  RunMatrix.entriesOrPanic overflow facilities options (RunMatrix.cells config)

end Configuration

end BenchmarkOrchestration
