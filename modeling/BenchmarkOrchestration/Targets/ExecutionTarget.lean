import BenchmarkOrchestration.Model.Query
import BenchmarkOrchestration.Naming.Artifact
import BenchmarkOrchestration.Targets.Identity

namespace BenchmarkOrchestration

/-!
# Execution targets

A target becomes an execution target just before it is built or run: it gets an identity, the
arguments of its first invocation and, when instrumentation is filtered at run time, the path of
its selection file.
-/

/-- One item in one flavor, ready to be built, run or analyzed. -/
structure ExecutionTarget where
  target : Target
  identity : String
  filtersAtCompileTime : Bool
  selectionFile : Option String
  arguments : Option String
  deriving Repr, DecidableEq

namespace ExecutionTarget

/-- A target with neither selection file nor arguments. -/
def plain
    (target : Target)
    (identity : String)
    (filtersAtCompileTime : Bool) :
    ExecutionTarget :=
  ⟨target, identity, filtersAtCompileTime, none, none⟩

/-- The same target with a selection file. -/
def withSelectionFile
    (target : ExecutionTarget)
    (path : String) :
    ExecutionTarget :=
  { target with selectionFile := some path }

/-- The same target with arguments. -/
def withArguments
    (target : ExecutionTarget)
    (arguments : String) :
    ExecutionTarget :=
  { target with arguments := some arguments }

/-- The selection file that is read at run time. -/
def runtimeSelectionFile
    (target : ExecutionTarget) :
    Option String :=
  if target.filtersAtCompileTime then none else target.selectionFile

/-- The execution target of an item in a flavor, with a given identity. -/
def ofItem
    (filtersAtCompileTime : Bool)
    (directory : String)
    (item : Item)
    (flavor identity : String) :
    ExecutionTarget where
  target := ⟨directory, item.name, flavor⟩
  identity := identity
  filtersAtCompileTime := filtersAtCompileTime
  selectionFile :=
    if filtersAtCompileTime then none
    else some (Artifact.selectionFile item.analyzerDirectory flavor item.benchmark)
  arguments := item.arguments.asList.head?

end ExecutionTarget

namespace Configuration

/-- Every item with its build directory and each of its flavors, build after build. -/
def occurrences
    (config : Configuration) :
    List (String × Item × String) :=
  config.builds.flatMap fun build =>
    build.items.flatMap fun item =>
      item.flavors.map fun flavor => (build.directory, item, flavor)

/-- Draw an identity for each occurrence in turn. -/
def drawTargets
    (draw : IdentitySource σ)
    (filtersAtCompileTime : Bool) :
    List (String × Item × String) → σ → List ExecutionTarget × σ
  | [], source => ([], source)
  | (directory, item, flavor) :: rest, source =>
      let (identity, source) := draw source
      let (targets, source) := drawTargets draw filtersAtCompileTime rest source
      (.ofItem filtersAtCompileTime directory item flavor identity :: targets, source)

/-- The execution targets of every declared target, in the order of `targets`. -/
def executionTargets
    (draw : IdentitySource σ)
    (filtersAtCompileTime : Bool)
    (config : Configuration)
    (source : σ) :
    List ExecutionTarget × σ :=
  drawTargets draw filtersAtCompileTime config.occurrences source

/-- The panic of the first item whose arguments have no room when its targets are prepared. -/
def targetPanic?
    (overflow : Overflow)
    (config : Configuration) :
    Option ExpansionPanic :=
  config.occurrences.findSome? fun (_, item, _) => item.arguments.panic? overflow

/-- The execution targets as a build of the program prepares them. -/
def preparedTargets
    (overflow : Overflow)
    (draw : IdentitySource σ)
    (filtersAtCompileTime : Bool)
    (config : Configuration)
    (source : σ) :
    Except ExpansionPanic (List ExecutionTarget × σ) :=
  match config.targetPanic? overflow with
  | some panic => .error panic
  | none => .ok (executionTargets draw filtersAtCompileTime config source)

end Configuration

end BenchmarkOrchestration
