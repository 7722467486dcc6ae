import BenchmarkOrchestration.Commands.Command
import BenchmarkOrchestration.Functors.Context

namespace BenchmarkOrchestration

/-!
# Facilities and the journal

Orchestration reaches the outside in four ways: it resolves a functor, invokes one, hands a command
to the interpreter and asks whether a directory exists.  `Facilities` are these four, over a state
that every use may change.  A session keeps the journal of all uses but the last kind; an entry is
made before the use takes effect, except for resolutions, which are entered with their answer.
-/

/-- A functor that was found, with what is needed to invoke it. -/
structure ResolvedFunctor (ι : Type) where
  name : String
  isActive : Bool
  handle : ι
  deriving DecidableEq

/-- What orchestration needs from outside, over states `σ` and handles `ι` of functors. -/
structure Facilities (σ ι : Type) where
  resolve : (directory : String) → FunctorName → σ → Except FunctorFault (ResolvedFunctor ι) × σ
  invoke : ι → InvocationMode → FunctorContext → σ → Except FunctorFault String × σ
  run : Command → σ → Except CommandFault CommandOutput × σ
  isDirectory : σ → String → Bool

/-- One use of the facilities. -/
inductive Event where
  | resolved (directory file : String) (answer : Except FunctorFault (String × Bool))
  | invoked (mode : InvocationMode) (functor : String) (context : FunctorContext)
  | commanded (command : Command)

/-- The state of the facilities and the journal of their uses. -/
structure Session (σ : Type) where
  state : σ
  events : List Event

/-- A step of orchestration. -/
abbrev Orchestrate (σ : Type) := StateM (Session σ)

namespace Session

/-- A session without any use so far. -/
def start
    (state : σ) :
    Session σ :=
  ⟨state, []⟩

/-- The same session with another entry in the journal. -/
def note
    (session : Session σ)
    (event : Event) :
    Session σ :=
  { session with events := session.events ++ [event] }

end Session

namespace Facilities

/-- Look up a functor and enter the answer in the journal. -/
def resolveFunctor
    (facilities : Facilities σ ι)
    (directory : String)
    (name : FunctorName) :
    Orchestrate σ (Except FunctorFault (ResolvedFunctor ι)) :=
  fun session =>
    let (answer, state) := facilities.resolve directory name session.state
    let shown := answer.map fun functor => (functor.name, functor.isActive)
    (answer, { session with state }.note (.resolved directory name.relativeFileName shown))

/-- Enter an invocation in the journal and perform it. -/
def invokeFunctor
    (facilities : Facilities σ ι)
    (functor : ResolvedFunctor ι)
    (mode : InvocationMode)
    (context : FunctorContext) :
    Orchestrate σ (Except FunctorFault String) :=
  fun session =>
    let session := session.note (.invoked mode functor.name context)
    let (answer, state) := facilities.invoke functor.handle mode context session.state
    (answer, { session with state })

/-- Enter a command in the journal and run it. -/
def runCommand
    (facilities : Facilities σ ι)
    (command : Command) :
    Orchestrate σ (Except CommandFault CommandOutput) :=
  fun session =>
    let session := session.note (.commanded command)
    let (answer, state) := facilities.run command session.state
    (answer, { session with state })

/-- Which directories exist now. -/
def directories
    (facilities : Facilities σ ι) :
    Orchestrate σ (String → Bool) :=
  fun session => (facilities.isDirectory session.state, session)

end Facilities

end BenchmarkOrchestration
