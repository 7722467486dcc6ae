import BenchmarkOrchestration.Interpreter.Fields
import BenchmarkOrchestration.Interpreter.Reader
import BenchmarkOrchestration.Interpreter.State
import BenchmarkOrchestration.Interpreter.Tool.Table

namespace BenchmarkOrchestration.Interpreter

/-!
# Commands that change the state of a script

These commands belong to the interpreter because they change variables, arguments or the directory
of the script itself, or leave its order.
-/

namespace Builtin

/-- A number among the arguments of a command; another text there ends the script. -/
def number
    (command : String)
    (text : Octets) :
    Run Nat :=
  match Octets.nat? text with
  | some value => return value
  | none => Run.fail s!"{command}: Illegal number: {Octets.toText text}"

/-- The number that is the first argument, or a number that stands for none. -/
def firstNumber
    (command : String)
    (otherwise : Nat) :
    List Octets → Run Nat
  | [] => return otherwise
  | text :: _ => number command text

/-- The name and the value of an argument that may be an assignment. -/
def assignment
    (argument : Octets) :
    Octets × Option Octets :=
  let name := argument.takeWhile (· ≠ '=')
  match argument.drop name.length with
  | _ :: value => (name, some value)
  | [] => (name, none)

/-- Go to a directory. -/
def cd
    (arguments : List Octets) :
    Run Unit := do
  let state ← get
  let goesBack := arguments.head? = some ['-']
  let target :=
    match arguments with
    | [] => (state.value? "HOME".toList).getD []
    | ['-'] :: _ => (state.value? "OLDPWD".toList).getD []
    | directory :: _ => directory
  if target.isEmpty then
    Run.finish 0
  else
    match state.tree.find state.here (Octets.toText target) with
    | .ok (location, .directory) =>
        let before := Octets.ofText ("/" ++ "/".intercalate state.here)
        let after := Octets.ofText ("/" ++ "/".intercalate location)
        let moved := { state with here := location, status := 0 }
        let moved := (moved.assign "OLDPWD".toList before).assign "PWD".toList after
        set ((moved.exportName "OLDPWD".toList).exportName "PWD".toList)
        if goesBack then
          Run.print (after ++ ['\n'])
    | _ =>
        Run.complain s!"cd: can't cd to {Octets.toText target}"
        Run.finish 2

/-- Set variables and hand them to programs. -/
def exportNames
    (arguments : List Octets) :
    Run Unit := do
  for argument in arguments.filter (· ≠ "-p".toList) do
    let (name, value) := assignment argument
    if !Reader.isName name then
      Run.fail s!"export: {Octets.toText name}: bad variable name"
    for value in value do
      Run.assign name value
    modify fun state => state.exportName name
  Run.finish 0

/-- Set variables that cannot be changed later. -/
def readonly
    (arguments : List Octets) :
    Run Unit := do
  for argument in arguments do
    let (name, value) := assignment argument
    if !Reader.isName name then
      Run.fail s!"readonly: {Octets.toText name}: bad variable name"
    for value in value do
      Run.assign name value
    modify fun state => { state with fixed := name :: state.fixed }
  Run.finish 0

/-- Set variables that have their old values again when the function ends. -/
def localNames
    (arguments : List Octets) :
    Run Unit := do
  if !(← get).isInFunction then
    Run.fail "local: not in a function"
  for argument in arguments do
    let (name, value) := assignment argument
    modify fun state =>
      let state := { state with saved := (name, state.value? name) :: state.saved }
      (value.map (state.assign name)).getD state
  Run.finish 0

/-- Remove variables or functions. -/
def unset
    (arguments : List Octets) :
    Run Unit := do
  let ofFunctions := arguments.head? = some "-f".toList
  let names := if ofFunctions ∨ arguments.head? = some "-v".toList then arguments.drop 1
    else arguments
  for name in names do
    if !ofFunctions && (← get).fixed.contains name then
      Run.fail s!"unset: {Octets.toText name}: is read only"
    modify fun state =>
      if ofFunctions then
        { state with functions := state.functions.filter fun (n, _) => n ≠ name }
      else
        state.unassign name
  Run.finish 0

/-- The letters of the flags, and the names that some of them have. -/
def flagNames : List (Char × String) :=
  [ ('e', "errexit"), ('f', "noglob"), ('I', "ignoreeof"), ('i', "interactive"),
    ('m', "monitor"), ('n', "noexec"), ('s', "stdin"), ('x', "xtrace"), ('v', "verbose"),
    ('V', "vi"), ('E', "emacs"), ('C', "noclobber"), ('a', "allexport"), ('b', "notify"),
    ('u', "nounset") ]

/-- Set a flag or take it away. -/
def setFlag
    (isOn : Bool)
    (flag : Char) :
    Run Unit := do
  if (flagNames.lookup flag).isNone then
    Run.fail s!"set: Illegal option -{flag}"
  modify fun state =>
    let others := state.flags.filter (· ≠ flag)
    { state with flags := if isOn then others ++ [flag] else others }

/-- Set a flag by its name, or take it away. -/
def setNamedFlag
    (isOn : Bool)
    (name : Octets) :
    Run Unit := do
  match flagNames.find? fun (_, known) => known.toList = name with
  | some (flag, _) => setFlag isOn flag
  | none => Run.fail s!"set: Illegal option -o {Octets.toText name}"

/-- Set flags and the arguments of the script. -/
def setFlags :
    List Octets → Run Unit
  | [] => Run.finish 0
  | ['-', '-'] :: arguments =>
      modify fun state => { state with positional := arguments, status := 0 }
  | ['-', 'o'] :: name :: rest => do
      setNamedFlag true name
      setFlags rest
  | ['+', 'o'] :: name :: rest => do
      setNamedFlag false name
      setFlags rest
  | ['-', 'o'] :: [] => Run.finish 0
  | ['+', 'o'] :: [] => Run.finish 0
  | ('-' :: c :: flags) :: rest => do
      for flag in c :: flags do
        setFlag true flag
      setFlags rest
  | ('+' :: c :: flags) :: rest => do
      for flag in c :: flags do
        setFlag false flag
      setFlags rest
  | arguments => modify fun state => { state with positional := arguments, status := 0 }
termination_by arguments => arguments.length

/-- Drop the first arguments of the script. -/
def shift
    (arguments : List Octets) :
    Run Unit := do
  let count ← firstNumber "shift" 1 arguments
  if (← get).positional.length < count then
    Run.fail "shift: can't shift that many"
  modify fun state => { state with positional := state.positional.drop count, status := 0 }

/-- The characters of a line, in which a backslash quotes the next one unless it is taken as is. -/
def lineMarks
    (isRaw : Bool) :
    Octets → List (Char × Bool)
  | [] => []
  | '\\' :: c :: rest =>
      if isRaw then ('\\', false) :: lineMarks isRaw (c :: rest)
      else (c, true) :: lineMarks isRaw rest
  | c :: rest => (c, false) :: lineMarks isRaw rest

/-- Read a line of the input into variables. -/
def read
    (arguments : List Octets) :
    Run Unit := do
  let isRaw := arguments.head? = some "-r".toList
  let names := if isRaw then arguments.drop 1 else arguments
  if names.isEmpty then
    Run.complain "read: arg count"
    Run.finish 2
  else
    let state ← get
    let line := state.input.firstLines 1
    let isWhole := line.getLast? = some '\n'
    let text := if isWhole then line.dropLast else line
    let rest : Source :=
      ⟨(state.input.text ++ state.input.period).drop line.length, state.input.period⟩
    let separators := (state.value? "IFS".toList).getD Fields.defaultSeparators
    let values := Fields.assignable separators names.length (lineMarks isRaw text)
    set { state with input := rest, status := if isWhole then 0 else 1 }
    for (name, value) in names.zip values do
      Run.assign name value

/-- The number of a signal by its name or number. -/
def signalNumber?
    (text : Octets) :
    Option Nat :=
  let name := Octets.toText text
  let name := if name.startsWith "SIG" then String.ofList (name.toList.drop 3) else name
  match [("HUP", 1), ("INT", 2), ("QUIT", 3), ("ABRT", 6), ("KILL", 9), ("USR1", 10),
      ("SEGV", 11), ("USR2", 12), ("PIPE", 13), ("ALRM", 14), ("TERM", 15), ("CHLD", 17),
      ("CONT", 18), ("STOP", 19)].lookup name with
  | some value => some value
  | none => Octets.nat? text

/-- Signals that leave a process alone. -/
def harmlessSignals : List Nat :=
  [0, 17, 18, 23, 28]

/-- Send a signal to the process of the script; there are no other processes. -/
def kill
    (arguments : List Octets) :
    Run Unit := do
  let (signal, targets) :=
    match arguments with
    | ['-', 's'] :: name :: targets => (signalNumber? name, targets)
    | ('-' :: name) :: targets => (signalNumber? name, targets)
    | targets => (some 15, targets)
  match signal, targets with
  | none, _ =>
      Run.complain "kill: invalid signal number or name"
      Run.finish 2
  | some signal, [] =>
      Run.complain s!"kill: Illegal number: {signal}"
      Run.finish 2
  | some signal, target :: _ =>
      if target = processNumber then
        if harmlessSignals.contains signal then Run.finish 0 else throw (.kill signal)
      else
        Run.complain "kill: No such process"
        Run.finish 1

/-- Set what is done when the script ends. -/
def trap
    (arguments : List Octets) :
    Run Unit := do
  match arguments with
  | action :: signals =>
      if signals.contains "EXIT".toList ∨ signals.contains ['0'] then
        modify fun state => { state with farewell := if action = ['-'] then [] else action }
  | [] => pure ()
  Run.finish 0

/-- End the script. -/
def exit
    (arguments : List Octets) :
    Run Unit := do
  throw (.exit (← firstNumber "exit" (← get).status arguments))

/-- End a function. -/
def leave
    (arguments : List Octets) :
    Run Unit := do
  throw (.leave (← firstNumber "return" (← get).status arguments))

/-- The commands that change the state. -/
def table : List (String × (List Octets → Run Unit)) :=
  [ ("cd", cd),
    ("export", exportNames),
    ("readonly", readonly),
    ("local", localNames),
    ("unset", unset),
    ("set", setFlags),
    ("shift", shift),
    ("read", read),
    ("kill", kill),
    ("trap", trap),
    ("exit", exit),
    ("return", leave),
    ("break", fun arguments => do throw (.breakLoop (← firstNumber "break" 1 arguments))),
    ("continue", fun arguments => do
      throw (.continueLoop (← firstNumber "continue" 1 arguments))),
    ("wait", fun _ => Run.finish 0),
    ("umask", fun arguments => do
      if arguments.isEmpty then Run.print "0022\n".toList
      Run.finish 0) ]

/-- The commands whose assignments stay and whose failed redirections end the script. -/
def specialNames : List String :=
  [":", ".", "break", "continue", "eval", "exec", "exit", "export", "readonly", "return", "set",
    "shift", "trap", "unset"]

/-- The commands that run other commands. -/
def runningNames : List String :=
  [".", "eval", "exec", "command"]

/-- Whether a command is part of the interpreter. -/
def isKnown
    (name : String) :
    Bool :=
  (table.lookup name).isSome || (Tool.inner.lookup name).isSome || runningNames.contains name

end Builtin

end BenchmarkOrchestration.Interpreter
