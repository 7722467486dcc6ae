import BenchmarkOrchestration.Interpreter.Script
import BenchmarkOrchestration.Interpreter.Tool.Call

namespace BenchmarkOrchestration.Interpreter

/-!
# The state of a script

A script changes files, variables, functions and the directory in use.  What it prints goes to
sinks, which are chosen by descriptors: the first descriptor stands for the output and the second
one for messages.  A command that leaves the order of the script does so by a jump.
-/

/-- Where printed text goes: to a text that is kept, to a file, or nowhere. -/
inductive Sink where
  | kept (index : Nat)
  | file (location : Location)
  | nothing
  deriving Repr, DecidableEq

/-- The state of a script that runs. -/
structure State where
  tree : FileTree
  here : Location
  bindings : List (Octets × Octets)
  exported : List Octets
  fixed : List Octets
  saved : List (Octets × Option Octets)
  functions : List (Octets × Node)
  isInFunction : Bool
  positional : List Octets
  speaker : Octets
  line : Nat
  status : Nat
  substituted : Option Nat
  flags : List Char
  isTested : Bool
  farewell : Octets
  input : Source
  sinks : List (Nat × Sink)
  kept : List Source

/-- A departure from the order of the script. -/
inductive Jump where
  | exit (status : Nat)
  | kill (signal : Nat)
  | leave (status : Nat)
  | breakLoop (levels : Nat)
  | continueLoop (levels : Nat)
  deriving Repr, DecidableEq

/-- A step of a script; its changes last also when it ends in a jump. -/
abbrev Run := ExceptT Jump (StateM State)

/-- The number that stands for the process of a script. -/
def processNumber : Octets :=
  "4242".toList

namespace State

/-- The value of a variable. -/
def value?
    (state : State)
    (name : Octets) :
    Option Octets :=
  state.bindings.lookup name

/-- The same state with a variable set. -/
def assign
    (state : State)
    (name value : Octets) :
    State :=
  { state with
    bindings :=
      if state.bindings.any fun (n, _) => n = name then
        state.bindings.map fun (n, v) => if n = name then (n, value) else (n, v)
      else
        state.bindings ++ [(name, value)] }

/-- The same state without a variable. -/
def unassign
    (state : State)
    (name : Octets) :
    State :=
  { state with
    bindings := state.bindings.filter fun (n, _) => n ≠ name
    exported := state.exported.filter (· ≠ name) }

/-- The same state with a variable set, or not set if there is no value. -/
def restore
    (state : State)
    (name : Octets) :
    Option Octets → State
  | some value => state.assign name value
  | none => state.unassign name

/-- The same state with a variable handed to programs. -/
def exportName
    (state : State)
    (name : Octets) :
    State :=
  { state with
    exported :=
      if state.exported.contains name then state.exported else state.exported ++ [name] }

/-- The variables that programs see. -/
def environment
    (state : State) :
    List (Octets × Octets) :=
  state.bindings.filter fun (name, _) => state.exported.contains name

/-- Put text at the end of a file that is open; one that was removed meanwhile stays removed. -/
def appendAt
    (state : State)
    (location : Location)
    (text : Octets) :
    State :=
  match state.tree.entry? location with
  | some (.file before isExecutable) =>
      let content := before ++ Octets.toBytes text
      { state with tree := state.tree.put location (.file content isExecutable) }
  | _ => state

/-- Put a text into a sink. -/
def pour
    (state : State)
    (source : Source) :
    Sink → State
  | .kept index => { state with kept := state.kept.modify index (·.append source) }
  | .file location => state.appendAt location source.text
  | .nothing => state

/-- Print a text to a descriptor. -/
def write
    (state : State)
    (descriptor : Nat)
    (source : Source) :
    State :=
  match state.sinks.lookup descriptor with
  | some sink => state.pour source sink
  | none => state

/-- The same state with another sink for a descriptor. -/
def connect
    (state : State)
    (descriptor : Nat)
    (sink : Sink) :
    State :=
  { state with
    sinks := (descriptor, sink) :: state.sinks.filter fun (d, _) => d ≠ descriptor }

/-- The same state with the output going to a new text that is kept. -/
def connectNew
    (state : State) :
    State :=
  let kept := state.kept ++ [.empty]
  { state with kept }.connect 1 (.kept state.kept.length)

/-- The same state with the files, the input and the printed texts of another. -/
def takeOutside
    (state other : State) :
    State :=
  { state with tree := other.tree, input := other.input, kept := other.kept }

end State

namespace Run

/-- Set the status of the last command. -/
def finish
    (status : Nat) :
    Run Unit :=
  modify fun state => { state with status }

/-- Print to the output. -/
def print
    (text : Octets) :
    Run Unit :=
  modify fun state => state.write 1 ⟨text, []⟩

/-- How messages about a line of the script begin. -/
def lineSpeaker
    (state : State)
    (line : Nat) :
    Octets :=
  state.speaker ++ ": ".toList ++ Octets.ofNat line

/-- Print a message about a line of the script. -/
def complainAt
    (line : Nat)
    (text : String) :
    Run Unit :=
  modify fun state =>
    state.write 2 ⟨lineSpeaker state line ++ Octets.ofText (": " ++ text ++ "\n"), []⟩

/-- Print a message about the current line. -/
def complain
    (text : String) :
    Run Unit := do
  complainAt (← get).line text

/-- Print a message and end the script. -/
def fail
    (text : String) :
    Run α := do
  complain text
  throw (.exit 2)

/-- Set a variable; one that is fixed ends the script. -/
def assign
    (name value : Octets) :
    Run Unit := do
  if (← get).fixed.contains name then
    fail s!"{Octets.toText name}: is read only"
  modify fun state => state.assign name value

/-- The jump in which steps end, if they do. -/
def attempt
    (body : Run Unit) :
    Run (Option Jump) :=
  fun state =>
    match body state with
    | (.ok (), state) => (.ok none, state)
    | (.error jump, state) => (.ok (some jump), state)

/-- Go on with a jump that was held back. -/
def resume : Option Jump → Run Unit
  | some jump => throw jump
  | none => pure ()

/-- The status with which a process ends by a jump; a signal from inside ends all of the script. -/
def statusOf
    (state : State) :
    Option Jump → Nat
  | some (.exit status) => status % 256
  | some (.leave status) => status % 256
  | some (.kill signal) => 128 + signal
  | _ => state.status % 256

/-- Run steps in a copy of the state, of which only the changes outside the script are kept. -/
def inCopy
    (prepare : State → State)
    (body : Run Unit) :
    Run (Option Jump) := do
  let before ← get
  set { prepare before with farewell := [] }
  let jump ← attempt body
  let after ← get
  set { before.takeOutside after with status := statusOf after jump }
  return jump

/-- Run steps in a copy of the state; a signal reaches the script itself. -/
def inSubshell
    (prepare : State → State)
    (body : Run Unit) :
    Run Unit := do
  match ← inCopy prepare body with
  | some (.kill signal) => throw (.kill signal)
  | _ => pure ()

/-- Run steps whose changes of streams are undone at the end. -/
def keepingStreams
    (changesInput : Bool)
    (body : Run Unit) :
    Run Unit := do
  let before ← get
  let jump ← attempt body
  modify fun after =>
    { after with
      sinks := before.sinks
      input := if changesInput then before.input else after.input }
  resume jump

/-- Run steps whose failure is looked at, so that it does not end the script. -/
def tested
    (body : Run Unit) :
    Run Unit := do
  let before ← get
  set { before with isTested := true }
  let jump ← attempt body
  modify fun after => { after with isTested := before.isTested }
  resume jump

/-- End the script after a failure that is not looked at, if it is to end then. -/
def checkFailure : Run Unit := do
  let state ← get
  if state.status ≠ 0 ∧ state.flags.contains 'e' ∧ !state.isTested then
    throw (.exit state.status)

/-- Call a tool with the streams, variables and files of the script. -/
def callTool
    (isInner : Bool)
    (name : Octets)
    (tool : ToolCall → ToolResult)
    (arguments : List Octets) :
    Run Unit :=
  modify fun state =>
    let speaker :=
      if isInner then lineSpeaker state state.line ++ ": ".toList ++ name else name
    let result :=
      tool
        ⟨name, speaker, arguments, state.input, state.environment, state.tree, state.here⟩
    let after := { state with input := result.input, tree := result.tree, status := result.status }
    (after.write 1 result.output).write 2 ⟨result.stderr, []⟩

end Run

end BenchmarkOrchestration.Interpreter
