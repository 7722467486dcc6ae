import BenchmarkOrchestration.Model.Query
import BenchmarkOrchestration.Naming.Artifact
import BenchmarkOrchestration.Orchestration.Facilities
import BenchmarkOrchestration.Orchestration.Failure
import BenchmarkOrchestration.Targets.Phase

namespace BenchmarkOrchestration

/-!
# Analysis

The analysis functor of an item selects what is instrumented next.  An active one does the analysis
itself.  A passive one gives a command, which is run in the analyzer directory with the call graph
as its argument, followed by the profile when an instrumented iteration is analyzed.
-/

/-- What an analysis did: a command that was run, or the work of an active functor. -/
inductive AnalysisOutcome where
  | commanded (command output : String)
  | delegated (output : String)
  deriving Repr, DecidableEq

namespace Analysis

/-- The arguments that the command of a passive functor gets. -/
def fileArguments
    (item : Item)
    (flavor : String)
    (phase : Phase) :
    Except DocumentFault (List String) :=
  let graph := Artifact.callGraphFile item.analyzerDirectory item.benchmark flavor
  match phase.profiledIteration with
  | none => return [graph]
  | some iteration => do
      let profile ← Artifact.profileFile item.profileDirectory flavor item.benchmark iteration
      return [graph, profile]

/-- Run the command of a passive functor. -/
def runCommand
    (facilities : Facilities σ ι)
    (isDry : Bool)
    (item : Item)
    (base : String)
    (arguments : List String) :
    Orchestrate σ (Except Failure AnalysisOutcome) := do
  let text := " ".intercalate (base :: arguments)
  match ← facilities.runCommand (.inDirectory text item.analyzerDirectory isDry) with
  | .error fault => return .error (.command fault)
  | .ok output => return .ok (.commanded text output.stdout)

/-- Analyze an item in a flavor. -/
def runItem
    (facilities : Facilities σ ι)
    (isDry : Bool)
    (item : Item)
    (flavor : String)
    (phase : Phase) :
    Orchestrate σ (Except Failure AnalysisOutcome) := do
  let name := FunctorName.plain .analyze item.benchmark flavor
  let context := FunctorContext.plain item.benchmark item.analyzerDirectory
  match ← facilities.resolveFunctor item.functors.analyze name with
  | .error fault => return .error (.functor fault)
  | .ok functor =>
  if functor.isActive then
    if isDry then
      return .ok (.delegated "")
    else
      match ← facilities.invokeFunctor functor .active context with
      | .error fault => return .error (.functor fault)
      | .ok output => return .ok (.delegated output)
  else
    match ← facilities.invokeFunctor functor .passive context with
    | .error fault => return .error (.functor fault)
    | .ok base =>
        match fileArguments item flavor phase with
        | .error fault => return .error (.document fault)
        | .ok arguments => runCommand facilities isDry item base arguments

end Analysis

namespace Configuration

/-- Analyze a target. -/
def analyze
    (config : Configuration)
    (facilities : Facilities σ ι)
    (isDry : Bool)
    (target : Target)
    (phase : Phase) :
    Orchestrate σ (Except Failure AnalysisOutcome) :=
  match config.item target.build target.item with
  | .error fault => return .error (.lookup fault)
  | .ok item => Analysis.runItem facilities isDry item target.flavor phase

/-- The selection file that the analysis of a target writes. -/
def selectionFile
    (config : Configuration)
    (target : Target) :
    Except Failure String :=
  match config.item target.build target.item with
  | .error fault => .error (.lookup fault)
  | .ok item =>
      .ok (Artifact.selectionFile item.analyzerDirectory target.flavor item.benchmark)

/-- The selection file of the iteration before. -/
def previousSelectionFile
    (config : Configuration)
    (target : Target) :
    Except Failure String :=
  match config.item target.build target.item with
  | .error fault => .error (.lookup fault)
  | .ok item =>
      .ok (Artifact.previousSelectionFile item.analyzerDirectory target.flavor item.benchmark)

end Configuration

end BenchmarkOrchestration
