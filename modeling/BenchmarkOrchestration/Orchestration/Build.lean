import BenchmarkOrchestration.Model.Query
import BenchmarkOrchestration.Orchestration.BuildOutcome
import BenchmarkOrchestration.Orchestration.DirectoryScope
import BenchmarkOrchestration.Orchestration.Facilities

namespace BenchmarkOrchestration

/-!
# Building

A target is built by its build functor.  An active one does everything itself.  A passive one gives
a command, and so does the clean functor; both commands run in the directory of the benchmark, the
clean command first.  In a dry run commands are marked as dry and active functors are left alone.
-/

/-- How targets are built: the variant, whether anything is executed, and the options. -/
structure BuildSettings where
  isUninstrumented : Bool
  isDry : Bool
  options : SortedTable
  deriving DecidableEq

namespace BuildSettings

/-- The compiler that build functors are told to use unless another is set. -/
def defaultCompiler : String := "clang++"

/-- Instrumented builds that are executed, with the default compiler. -/
def standard : BuildSettings :=
  ⟨false, false, SortedTable.empty.insert "compiler" defaultCompiler⟩

/-- The same settings with an option set. -/
def withOption
    (settings : BuildSettings)
    (key value : String) :
    BuildSettings :=
  { settings with options := settings.options.insert key value }

/-- The context of every invocation for a target: the name of the item and the build directory. -/
def context
    (settings : BuildSettings)
    (target : Target) :
    FunctorContext :=
  ⟨target.item, target.build, settings.options, []⟩

/-- A command in the directory of the benchmark, which sees the options as functors do. -/
def command
    (settings : BuildSettings)
    (target : Target)
    (directory text : String) :
    Command :=
  ⟨text, some directory, (settings.context target).environment, settings.isDry, false⟩

end BuildSettings

/-- The record of a build, and the cause if it stopped. -/
abbrev BuildProgress := BuildOutcome × Option BuildCause

namespace BuildProgress

/-- The result of a build from its record. -/
def result : BuildProgress → Except BuildFault BuildOutcome
  | (outcome, none) => .ok outcome
  | (outcome, some cause) => .error ⟨outcome, cause⟩

end BuildProgress

namespace Build

/-- Let an active functor build, except in a dry run. -/
def runActive
    (facilities : Facilities σ ι)
    (settings : BuildSettings)
    (functor : ResolvedFunctor ι)
    (outcome : BuildOutcome) :
    Orchestrate σ BuildProgress := do
  let outcome := { outcome with isActive := some true, clean := .delegated }
  if settings.isDry then
    return ({ outcome with build := .succeeded }, none)
  else
    match ← facilities.invokeFunctor functor .active (settings.context outcome.target) with
    | .ok _ => return ({ outcome with build := .succeeded }, none)
    | .error fault => return ({ outcome with build := .failed }, some (.functor fault))

/-- Run the clean command, and after it the build command. -/
def runCommands
    (facilities : Facilities σ ι)
    (settings : BuildSettings)
    (directory cleanText buildText : String)
    (outcome : BuildOutcome) :
    Orchestrate σ BuildProgress := do
  let command := settings.command outcome.target directory
  match ← facilities.runCommand (command cleanText) with
  | .error fault => return ({ outcome with clean := .failed }, some (.command fault))
  | .ok _ =>
      let outcome := { outcome with clean := .succeeded }
      match ← facilities.runCommand (command buildText) with
      | .error fault => return ({ outcome with build := .failed }, some (.command fault))
      | .ok _ => return ({ outcome with build := .succeeded }, none)

/-- Ask a passive build functor and the clean functor for their commands, and run these. -/
def runPassive
    (facilities : Facilities σ ι)
    (settings : BuildSettings)
    (item : Item)
    (scope : DirectoryScope)
    (functor : ResolvedFunctor ι)
    (outcome : BuildOutcome) :
    Orchestrate σ BuildProgress := do
  let outcome := { outcome with isActive := some false }
  let target := outcome.target
  let cleanName := FunctorName.plain .clean item.benchmark target.flavor
  match ← facilities.resolveFunctor item.functors.clean cleanName with
  | .error fault => return (outcome, some (.functor fault))
  | .ok cleaner =>
  match ← facilities.invokeFunctor functor .passive (settings.context target) with
  | .error fault => return (outcome, some (.functor fault))
  | .ok buildText =>
  match ← facilities.invokeFunctor cleaner .passive (settings.context target) with
  | .error fault => return (outcome, some (.functor fault))
  | .ok cleanText =>
  match scope.benchmarkDirectory (← facilities.directories) target.item with
  | .error path => return (outcome, some (.directory path))
  | .ok path => runCommands facilities settings path cleanText buildText outcome

/-- Build a declared target inside its acquired directory. -/
def runTarget
    (facilities : Facilities σ ι)
    (settings : BuildSettings)
    (item : Item)
    (scope : DirectoryScope)
    (outcome : BuildOutcome) :
    Orchestrate σ BuildProgress := do
  let name : FunctorName :=
    { FunctorName.plain .build item.benchmark outcome.target.flavor with
      uninstrumented := settings.isUninstrumented }
  match ← facilities.resolveFunctor item.functors.build name with
  | .error fault => return (outcome, some (.functor fault))
  | .ok functor =>
      if functor.isActive then
        runActive facilities settings functor outcome
      else
        runPassive facilities settings item scope functor outcome

end Build

namespace Configuration

/-- The item of a target, which must declare the flavor of the target. -/
def declaredItem
    (config : Configuration)
    (target : Target) :
    Except LookupFault Item := do
  let item ← config.item target.build target.item
  if item.declaresFlavor target.flavor then
    return item
  else
    throw (.unknownFlavor target.item target.flavor)

/-- Clean and build one target. -/
def buildTarget
    (config : Configuration)
    (facilities : Facilities σ ι)
    (settings : BuildSettings)
    (target : Target) :
    Orchestrate σ (Except BuildFault BuildOutcome) := do
  let outcome := BuildOutcome.start target
  match config.declaredItem target with
  | .error fault => return .error ⟨outcome, .lookup fault⟩
  | .ok item =>
      match DirectoryScope.acquire (← facilities.directories) target.build with
      | .error path => return .error ⟨outcome, .directory path⟩
      | .ok scope => return (← Build.runTarget facilities settings item scope outcome).result

/-- Clean and build every declared target; a failure does not stop the sweep. -/
def buildAll
    (config : Configuration)
    (facilities : Facilities σ ι)
    (settings : BuildSettings) :
    Orchestrate σ (List (Except BuildFault BuildOutcome)) :=
  config.targets.mapM (buildTarget config facilities settings)

end Configuration

end BenchmarkOrchestration
