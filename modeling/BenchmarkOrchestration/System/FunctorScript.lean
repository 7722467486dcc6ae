import BenchmarkOrchestration.Json.Reader
import BenchmarkOrchestration.Orchestration.Facilities
import BenchmarkOrchestration.System.Machine

namespace BenchmarkOrchestration

/-!
# Functors that are scripts

A functor is an executable file below its search directory, or a script with the ending `.sh`
there.  Asked for its method it prints whether it is active; invoked it gets the mode, the
benchmark and further arguments.  Files are found by their full path, so that a functor can run in
another directory than the one in which it was found.
-/

/-- A functor that was found, by its name and the full path of its file. -/
structure FunctorScript where
  name : String
  path : String
  deriving Repr, DecidableEq

namespace FunctorScript

/-- The ending of files that are run by the interpreter without being executable. -/
def scriptEnding : String := "sh"

/-- The path of a location. -/
def pathOf
    (location : Location) :
    String :=
  "/" ++ "/".intercalate location

/-- The path of a functor file below a search directory: the plain name before the script. -/
def locate
    (tree : FileTree)
    (root : Location)
    (file : String) :
    Option String :=
  let plain := Path.join (pathOf root) file
  let script := Path.join (pathOf root) (file ++ "." ++ scriptEnding)
  if tree.isFile [] plain then some plain
  else if tree.isFile [] script then some script
  else none

/-- The process that a functor is. -/
def executable
    (functor : FunctorScript) :
    LaunchTarget :=
  if Path.extension? functor.path = some scriptEnding then .script functor.path
  else .file functor.path

/-- What a functor says about its method, which is one record with one entry. -/
def method?
    (printed : Octets) :
    Option Bool := do
  let document ← Json.Reader.document (← Utf8.decode? (Octets.toBytes printed))
  match document with
  | .array [.boolean isActive] => some isActive
  | .object fields =>
      match fields.filter fun (name, _) => name = "active" with
      | [(_, .boolean isActive)] => some isActive
      | _ => none
  | _ => none

/-- Ask a functor for its method in its search directory. -/
def askMethod
    (functor : FunctorScript)
    (root : Location)
    (machine : Machine) :
    Except FunctorFault Bool × Machine :=
  let launch : Launch := ⟨functor.executable, ["method"], [], some (pathOf root)⟩
  let (outcome, machine) := machine.launch launch
  let answer :=
    match outcome with
    | .notStarted reason => .error (.invocation functor.name reason)
    | .notAwaited reason => .error (.invocation functor.name reason)
    | .finished exitCode stdout _ =>
        if exitCode = some 0 then
          match method? stdout with
          | some isActive => .ok isActive
          | none =>
              .error (.protocol functor.name
                "method query did not print \x7b\"active\": bool\x7d")
        else
          .error (.protocol functor.name s!"method query exited with {exitCodeText exitCode}")
  (answer, machine)

/-- Find a functor and ask it for its method in some way. -/
def resolveBy
    (ask : FunctorScript → Location → Machine → Except FunctorFault Bool × Machine)
    (directory : String)
    (name : FunctorName)
    (machine : Machine) :
    Except FunctorFault (ResolvedFunctor FunctorScript) × Machine :=
  match machine.tree.find machine.here directory with
  | .ok (root, .directory) =>
      let file := name.relativeFileName
      match locate machine.tree root file with
      | none => (.error (.missingFile directory file), machine)
      | some path =>
          let functor : FunctorScript := ⟨file, path⟩
          let (answer, machine) := ask functor root machine
          (answer.map fun isActive => ⟨file, isActive, functor⟩, machine)
  | _ => (.error (.missingDirectory directory), machine)

/-- Find a functor and ask it for its method by starting its process. -/
def resolve
    (directory : String)
    (name : FunctorName)
    (machine : Machine) :
    Except FunctorFault (ResolvedFunctor FunctorScript) × Machine :=
  resolveBy askMethod directory name machine

/-- What an invocation gives: the trimmed output, which is a command in passive mode. -/
def outputOf
    (functor : FunctorScript)
    (mode : InvocationMode) :
    ProcessOutcome → Except FunctorFault String
  | .notStarted reason => .error (.invocation functor.name reason)
  | .notAwaited reason => .error (.invocation functor.name reason)
  | .finished exitCode stdout stderr =>
      let output := trimText (Octets.toText stdout)
      if exitCode ≠ some 0 then
        let message := trimText (Octets.toText stderr)
        .error (.invocation functor.name s!"exit {exitCodeText exitCode}: {message}")
      else if mode = .passive ∧ output = "" then
        .error (.protocol functor.name "passive invocation printed no command")
      else
        .ok output

/-- Invoke a functor in the directory of the context. -/
def invoke
    (functor : FunctorScript)
    (mode : InvocationMode)
    (context : FunctorContext)
    (machine : Machine) :
    Except FunctorFault String × Machine :=
  let arguments := mode.name :: context.benchmark :: context.arguments
  let (outcome, machine) :=
    machine.launch
      ⟨functor.executable, arguments, context.environment, some context.directory⟩
  (functor.outputOf mode outcome, machine)

end FunctorScript

namespace Machine

/-- The facilities of a machine. -/
def facilities : Facilities Machine FunctorScript where
  resolve := FunctorScript.resolve
  invoke := FunctorScript.invoke
  run := run
  isDirectory := fun machine path => machine.tree.isDirectory machine.here path

end Machine

end BenchmarkOrchestration
