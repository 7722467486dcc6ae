import BenchmarkOrchestration.Interpreter.Execution

namespace BenchmarkOrchestration.Interpreter

/-!
# Processes

A process runs one script from its start to its end.  It gets arguments, variables, files and a
directory, and has no input.  It ends with an exit code unless a signal ends it.
-/

/-- What a process is started with. -/
structure ProcessStart where
  speaker : Octets
  script : Octets
  arguments : List Octets
  flags : List Char
  environment : List (Octets × Octets)
  tree : FileTree
  here : Location

/-- What is left of a process. -/
structure ProcessEnd where
  exitCode : Option Int
  stdout : Octets
  stderr : Octets
  tree : FileTree

namespace ProcessStart

/-- The number of calls that a process may take. -/
def fuel : Nat := 1000000

/-- The state in which a process starts. -/
def state
    (start : ProcessStart) :
    State :=
  let named := start.environment.filter fun (name, _) => Reader.isName name
  let here := Octets.ofText ("/" ++ "/".intercalate start.here)
  let bare : State :=
    { tree := start.tree
      here := start.here
      bindings := []
      exported := []
      fixed := []
      saved := []
      functions := []
      isInFunction := false
      positional := start.arguments
      speaker := start.speaker
      line := 1
      status := 0
      substituted := none
      flags := start.flags
      isTested := false
      farewell := []
      input := .empty
      sinks := [(1, .kept 0), (2, .kept 1)]
      kept := [.empty, .empty] }
  let filled := named.foldl
    (fun state (name, value) => (state.assign name value).exportName name) bare
  (filled.assign "PWD".toList here).exportName "PWD".toList

/-- Run a process to its end. -/
def run
    (start : ProcessStart) :
    ProcessEnd :=
  let (answer, state) := Execution.whole fuel start.script start.state
  let kept := fun (index : Nat) => (state.kept[index]?.getD .empty).text
  let jump? : Option Jump :=
    match answer with
    | .ok () => none
    | .error jump => some jump
  let exitCode : Option Int :=
    match jump? with
    | some (.kill _) => none
    | jump => some (Run.statusOf state jump)
  ⟨exitCode, kept 0, kept 1, state.tree⟩

end ProcessStart

end BenchmarkOrchestration.Interpreter
