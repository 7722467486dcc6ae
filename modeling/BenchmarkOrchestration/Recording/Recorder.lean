import BenchmarkOrchestration.Commands.Clock
import BenchmarkOrchestration.Files.Tree
import BenchmarkOrchestration.Orchestration.Facilities

namespace BenchmarkOrchestration

/-!
# Facilities that only record

For trying out a configuration, functors can be registered with a fixed behavior, and commands can
be recorded instead of being run.  Only directories are looked up in a real tree.
-/

/-- A functor that always answers the same. -/
structure FixedFunctor where
  name : String
  isActive : Bool
  output : String
  failure : Option String
  deriving Repr, DecidableEq

/-- One invocation of a registered functor. -/
structure RecordedCall where
  functor : String
  mode : InvocationMode
  benchmark : String
  directory : String
  deriving Repr, DecidableEq

/-- Registered functors, recorded uses, and the behavior of commands. -/
structure Recorder where
  functors : List ((Path.Key × String) × FixedFunctor)
  calls : List RecordedCall
  commands : List Command
  stdout : String
  failing : List String
  tree : FileTree
  here : Location

namespace Recorder

/-- Register a functor in a directory, in place of one that is there under the same name. -/
def register
    (recorder : Recorder)
    (directory file : String)
    (functor : FixedFunctor) :
    Recorder :=
  let place := (Path.key directory, file)
  { recorder with
    functors := (place, functor) :: recorder.functors.filter fun (p, _) => p ≠ place }

/-- Find a registered functor. -/
def resolve
    (directory : String)
    (name : FunctorName)
    (recorder : Recorder) :
    Except FunctorFault (ResolvedFunctor FixedFunctor) × Recorder :=
  let file := name.relativeFileName
  match recorder.functors.lookup (Path.key directory, file) with
  | some functor => (.ok ⟨functor.name, functor.isActive, functor⟩, recorder)
  | none => (.error (.missingFile directory file), recorder)

/-- Record an invocation and give the fixed answer. -/
def invoke
    (functor : FixedFunctor)
    (mode : InvocationMode)
    (context : FunctorContext)
    (recorder : Recorder) :
    Except FunctorFault String × Recorder :=
  let call : RecordedCall := ⟨functor.name, mode, context.benchmark, context.directory⟩
  let recorder := { recorder with calls := recorder.calls ++ [call] }
  match functor.failure with
  | some reason => (.error (.invocation functor.name reason), recorder)
  | none => (.ok functor.output, recorder)

/-- Record a command; unless it is dry, one that contains a failing text fails. -/
def run
    (command : Command)
    (recorder : Recorder) :
    Except CommandFault CommandOutput × Recorder :=
  let answer :=
    if command.isDry then
      .ok ⟨"", .untimed⟩
    else if recorder.failing.any fun part => textContains command.text part then
      .error (.failed command.text (some 2) "mock failure")
    else
      .ok ⟨recorder.stdout, if command.isTimed then .zero else .untimed⟩
  (answer, { recorder with commands := recorder.commands ++ [command] })

/-- The facilities of a recorder. -/
def facilities : Facilities Recorder FixedFunctor where
  resolve := resolve
  invoke := invoke
  run := run
  isDirectory := fun recorder path => recorder.tree.isDirectory recorder.here path

end Recorder

end BenchmarkOrchestration
