import BenchmarkOrchestration.Commands.Runner
import BenchmarkOrchestration.Files.Tree
import BenchmarkOrchestration.Interpreter.Process

namespace BenchmarkOrchestration

/-!
# Machines

A machine has files, a directory in use, variables and a clock.  It runs command texts with its
interpreter, and executable files by the interpreter that their first line names.
-/

open Interpreter (ProcessStart ProcessEnd)

/-- A machine that runs commands and scripts. -/
structure Machine where
  tree : FileTree
  here : Location
  environment : List (String × String)
  clock : Clock

/-- A process to be started: a script of the interpreter, or an executable file. -/
inductive LaunchTarget where
  | command (text : String)
  | script (path : String)
  | file (path : String)
  deriving Repr, DecidableEq

/-- Everything that a process is started with; without a directory it stays in the one in use. -/
structure Launch where
  executable : LaunchTarget
  arguments : List String
  environment : List (String × String)
  directory : Option String
  deriving Repr, DecidableEq

namespace Launch

/-- The texts that are handed to the system, none of which may contain a zero byte. -/
def texts
    (launch : Launch) :
    List String :=
  let first :=
    match launch.executable with
    | .command text => text
    | .script path => path
    | .file path => path
  first :: launch.arguments ++ launch.directory.toList ++
    launch.environment.flatMap fun (name, value) => [name, value]

end Launch

namespace Machine

/-- The reason why nothing is started with a zero byte in a text. -/
def zeroByteReason : String :=
  "nul byte found in provided data"

/-- The directory in which a process is started. -/
def startDirectory
    (machine : Machine) :
    Option String → Except FileFault Location
  | none => .ok machine.here
  | some path =>
      match machine.tree.find machine.here path with
      | .ok (location, .directory) => .ok location
      | .ok _ => .error .notDirectory
      | .error fault => .error fault

/-- The variables of the machine with some set anew. -/
def environmentWith
    (machine : Machine)
    (environment : List (String × String)) :
    List (Octets × Octets) :=
  let all := environment.foldl
    (fun known (name, value) => (known.filter fun (n, _) => n ≠ name) ++ [(name, value)])
    machine.environment
  all.map fun (name, value) => (Octets.ofText name, Octets.ofText value)

/-- The flags that the first line of a file gives to its interpreter. -/
def flagsOf
    (content : Octets) :
    List Char :=
  let line := content.takeWhile (· ≠ '\n')
  match (splitAt ' ' line).getLast? with
  | some ('-' :: flags) => flags
  | _ => []

/-- The text that a process runs, its name for messages and its flags. -/
def scriptOf
    (machine : Machine)
    (here : Location) :
    LaunchTarget → Except FileFault (Octets × Octets × List Char)
  | .command text => .ok (Octets.ofText text, "sh".toList, [])
  | .script path => do
      let content ← machine.tree.read here path
      return (Octets.ofBytes content, Octets.ofText path, [])
  | .file path => do
      match ← machine.tree.find here path with
      | (_, .file content true) =>
          let body := Octets.ofBytes content
          match Interpreter.Execution.interpreterOf? body with
          | none => throw .notExecutable
          | some interpreter =>
              if machine.tree.isFile here (Octets.toText interpreter) then
                return (body, Octets.ofText path, flagsOf body)
              else
                throw .notFound
      | _ => throw .notPermitted

/-- Start a process and await its end. -/
def launch
    (launch : Launch)
    (machine : Machine) :
    ProcessOutcome × Machine :=
  if launch.texts.any fun text => text.toList.contains '\x00' then
    (.notStarted zeroByteReason, machine)
  else
    match machine.startDirectory launch.directory with
    | .error fault => (.notStarted fault.message, machine)
    | .ok here =>
        match machine.scriptOf here launch.executable, launch.executable with
        | .error fault, .script path =>
            let reason := Interpreter.Execution.openingText fault
            (.finished (some 2) [] (Octets.ofText s!"sh: 0: cannot open {path}: {reason}\n"),
              machine)
        | .error fault, _ => (.notStarted fault.message, machine)
        | .ok (script, speaker, flags), _ =>
            let finish :=
              ProcessStart.run
                { speaker, script, flags, here
                  arguments := launch.arguments.map Octets.ofText
                  environment := machine.environmentWith launch.environment
                  tree := machine.tree }
            (.finished finish.exitCode finish.stdout finish.stderr,
              { machine with tree := finish.tree })

/-- Hand a command to the interpreter. -/
def execute
    (command : Command)
    (machine : Machine) :
    ProcessOutcome × Machine :=
  machine.launch ⟨.command command.text, [], command.environment, command.directory⟩

/-- Run a command, measured by the clock of the machine. -/
def run
    (command : Command)
    (machine : Machine) :
    Except CommandFault CommandOutput × Machine :=
  let (answer, clock, machine) := command.run execute machine.clock machine
  (answer, { machine with clock })

end Machine

end BenchmarkOrchestration
