import BenchmarkOrchestration.CommandLine.Reading
import BenchmarkOrchestration.CommandLine.Report
import BenchmarkOrchestration.CommandLine.TextTable
import BenchmarkOrchestration.Json.Writer
import BenchmarkOrchestration.Loading.Loader
import BenchmarkOrchestration.Model.Format
import BenchmarkOrchestration.Orchestration.Analysis
import BenchmarkOrchestration.Orchestration.Build
import BenchmarkOrchestration.Orchestration.RunMatrix
import BenchmarkOrchestration.System.FunctorScript
import BenchmarkOrchestration.Targets.ExecutionTarget

namespace BenchmarkOrchestration.CommandLine

/-!
# The program

The program loads a configuration and describes it, builds its targets, generates its runs or
analyzes its targets.  What was done before a failure is still printed.  A build of the program is
told by what it does with a product that leaves the machine word.
-/

/-- What the program prints and with which code it ends. -/
structure Outcome where
  exitCode : Nat
  stdout : String
  stderr : String
  deriving Repr, DecidableEq

namespace Outcome

/-- Success with some output. -/
def success
    (stdout : String) :
    Outcome :=
  ⟨0, stdout, ""⟩

/-- Failure after some output. -/
def failure
    (stdout : String)
    (report : Report) :
    Outcome :=
  ⟨1, stdout, report.render⟩

/-- The code with which a process ends that panics. -/
def panicCode : Nat := 101

/-- A panic before anything is printed. -/
def panic
    (panic : ExpansionPanic) :
    Outcome :=
  ⟨panicCode, "", panic.message ++ "\n"⟩

end Outcome

/-- The name and the version of the program. -/
def versionText : String := "pira 0.1.0\n"

/-- How the program is used. -/
def usageText : String :=
  "PIRA benchmark orchestration\n\nUsage: pira [OPTIONS] <COMMAND>\n"

/-- The mark before something that was done. -/
def doneMark : String := "✓"

/-- The mark before something that failed. -/
def failedMark : String := "✗"

namespace Program

/-- The lines of a text, each with its end. -/
def lines
    (texts : List String) :
    String :=
  String.join (texts.map fun text => text ++ "\n")

/-- The columns of the table of items. -/
def header : List String :=
  ["build", "item", "flavors", "mode", "functors", "analyzer"]

/-- The row of an item. -/
def row
    (directory : String)
    (item : Item) :
    List String :=
  [directory, item.name, ", ".intercalate item.flavors, (item.mode.map FilterMode.text).getD "",
    item.functors.build, item.analyzerDirectory]

/-- The rows of all items. -/
def rows
    (config : Configuration) :
    List (List String) :=
  config.builds.flatMap fun build => build.items.map (row build.directory)

/-- Describe a configuration, as a table or as a document. -/
def describe
    (asJson : Bool)
    (path : String)
    (config : Configuration) :
    Outcome :=
  if asJson then
    .success (lines [config.encode.renderIndented 0])
  else
    .success
      (lines [s!"{path} ({config.schema.name})", "", TextTable.render header (rows config)])

/-- Print the arguments of an item. -/
def printArguments
    (overflow : Overflow)
    (directory name : String)
    (config : Configuration) :
    Outcome :=
  match config.expandedArguments overflow directory name with
  | .ok (.ok arguments) => .success (lines arguments)
  | .ok (.error panic) => .panic panic
  | .error fault => .failure "" (.plain fault.message)

/-- The line for the result of one build. -/
def buildLine : Except BuildFault BuildOutcome → String
  | .ok outcome =>
      let target := outcome.target
      s!"  {doneMark} {target.item} ({target.flavor}) in {target.build}"
  | .error fault => s!"  {failedMark} {fault.message}"

/-- Build all targets. -/
def build
    (settings : BuildSettings)
    (config : Configuration) :
    Orchestrate Machine Outcome := do
  let results ← config.buildAll Machine.facilities settings
  let built := results.countP fun result => result.isOk
  let failed := results.length - built
  let stdout :=
    lines (results.map buildLine ++ ["", s!"  Summary: {built} built, {failed} failed"])
  if failed = 0 then
    return .success stdout
  else
    return .failure stdout (.plain s!"{failed} target(s) failed to build")

/-- The line for one entry of the run matrix. -/
def runLine
    (entry : RunEntry) :
    String :=
  s!"({entry.benchmark}, {entry.flavor}) -> {entry.script}"

/-- Generate the run matrix. -/
def runs
    (overflow : Overflow)
    (options : SortedTable)
    (config : Configuration) :
    Orchestrate Machine Outcome := do
  match ← config.runMatrixOrPanic overflow Machine.facilities options with
  | .error panic => return .panic panic
  | .ok (.error failure) => return .failure "" (.ofFailure failure)
  | .ok (.ok entries) =>
      let summary := s!"  {doneMark} {entries.length} run configurations"
      return .success (lines (entries.map runLine ++ ["", summary]))

/-- The lines for an analysis that was done. -/
def analysisLines
    (target : ExecutionTarget)
    (outcome : AnalysisOutcome) :
    List String :=
  let detail :=
    match outcome with
    | .commanded command _ => command
    | .delegated output => output
  s!"  {doneMark} {target.target.item} ({target.target.flavor}): {detail}" ::
    (target.runtimeSelectionFile.map fun file => s!"    selection: {file}").toList

/-- Analyze targets up to the first failure; the lines so far are printed in any case. -/
def analyzeTargets
    (isDry : Bool)
    (phase : Phase)
    (config : Configuration) :
    List ExecutionTarget → (printed : List String) → Orchestrate Machine Outcome
  | [], printed => return .success (lines printed)
  | target :: rest, printed => do
      match ← config.analyze Machine.facilities isDry target.target phase with
      | .error failure =>
          let context := s!"Analysis of {target.target.item} ({target.target.flavor}) failed"
          return .failure (lines printed) ((Report.ofFailure failure).inContext context)
      | .ok outcome =>
          analyzeTargets isDry phase config rest (printed ++ analysisLines target outcome)

/-- Analyze all targets. -/
def analyze
    (overflow : Overflow)
    (isDry filtersAtRuntime : Bool)
    (iteration : Option Nat)
    (config : Configuration) :
    Orchestrate Machine Outcome :=
  let phase := (iteration.map Phase.instrumented).getD .plain
  match config.preparedTargets overflow Identity.random (!filtersAtRuntime) mkStdGen with
  | .error panic => return .panic panic
  | .ok (targets, _) => analyzeTargets isDry phase config targets []

/-- The home directory of a machine. -/
def homeOf
    (machine : Machine) :
    String :=
  (machine.environment.lookup "HOME").getD ""

/-- Do what a request asks for with a configuration. -/
def perform
    (overflow : Overflow)
    (request : Request)
    (home path : String)
    (config : Configuration) :
    Orchestrate Machine Outcome :=
  let isDry := request.isSet .dryRun
  match request.action with
  | .describe => return describe (request.isSet .asJson) path config
  | .arguments =>
      return printArguments overflow ((request.value? .build).getD "")
        ((request.value? .item).getD "") config
  | .build =>
      build { BuildSettings.standard with isUninstrumented := request.isSet .uninstrumented, isDry }
        config
  | .runs =>
      let directory :=
        (request.value? .experimentDirectory).getD Request.defaultExperimentDirectory
      let label := (request.value? .experimentLabel).getD Request.defaultExperimentLabel
      let options := RunMatrix.withInvocation .empty path request.repetitions
      runs overflow (RunMatrix.withExperiments options (expandHome home directory) label) config
  | .analyze =>
      analyze overflow isDry (request.isSet .runtimeFilter) request.iteration? config

/-- Load the configuration of a request and do what is asked for. -/
def run
    (overflow : Overflow)
    (request : Request)
    (machine : Machine) :
    Outcome × Machine :=
  let home := homeOf machine
  match request.value? .configuration with
  | none =>
      let report := Report.plain "No configuration file given (--config or PIRA_CONFIG)"
      (.failure "" report, machine)
  | some written =>
      let path := expandHome home written
      let loader := Loader.start request.readingMode home
      match (loader.load machine.tree machine.here path).1 with
      | .error failure =>
          let report := (Report.ofFailure failure).inContext s!"Failed to load {path}"
          (.failure "" report, machine)
      | .ok config =>
          let (outcome, session) := (perform overflow request home path config).run (.start machine)
          (outcome, session.state)

end Program

/-- Run the program on the words of a command line. -/
def run
    (overflow : Overflow)
    (words : List String)
    (machine : Machine) :
    Outcome × Machine :=
  match Reading.ofWords machine.environment words with
  | .version => (.success versionText, machine)
  | .help => (.success usageText, machine)
  | .wrong => (⟨2, "", usageText⟩, machine)
  | .request request => Program.run overflow request machine

end BenchmarkOrchestration.CommandLine
