import BenchmarkOrchestration.Commands.Command
import BenchmarkOrchestration.Fault
import BenchmarkOrchestration.Functors.Context
import BenchmarkOrchestration.Model.Configuration

namespace BenchmarkOrchestration

/-!
# Outcomes of builds

An outcome records, for the two steps of a build, what became of them.  A build that stops reports
the outcome up to there together with the cause.
-/

/-- What became of a step: an active functor performs the cleaning inside its own step. -/
inductive StepStatus where
  | pending
  | succeeded
  | failed
  | delegated
  deriving Repr, DecidableEq

namespace StepStatus

/-- The word for a status. -/
def text : StepStatus → String
  | .pending => "pending"
  | .succeeded => "ok"
  | .failed => "failed"
  | .delegated => "delegated"

end StepStatus

/-- The record of one build; whether its functor is active is known once it is resolved. -/
structure BuildOutcome where
  target : Target
  isActive : Option Bool
  clean : StepStatus
  build : StepStatus
  deriving Repr, DecidableEq

namespace BuildOutcome

/-- The record of a build that has not begun. -/
def start
    (target : Target) :
    BuildOutcome :=
  ⟨target, none, .pending, .pending⟩

/-- Whether both steps were done. -/
def isSuccess
    (outcome : BuildOutcome) :
    Bool :=
  outcome.build = .succeeded && (outcome.clean = .succeeded || outcome.clean = .delegated)

end BuildOutcome

/-- Why a build stopped. -/
inductive BuildCause where
  | directory (path : String)
  | lookup (fault : LookupFault)
  | functor (fault : FunctorFault)
  | command (fault : CommandFault)
  deriving Repr, DecidableEq

namespace BuildCause

/-- The text of a cause. -/
def message : BuildCause → String
  | .directory path => s!"directory does not exist: {path}"
  | .lookup fault => fault.message
  | .functor fault => fault.message
  | .command fault => fault.message

end BuildCause

/-- A build that stopped, with what had become of its steps. -/
structure BuildFault where
  outcome : BuildOutcome
  cause : BuildCause
  deriving Repr, DecidableEq

namespace BuildFault

/-- The text shown to the user. -/
def message
    (fault : BuildFault) :
    String :=
  let outcome := fault.outcome
  s!"build of '{outcome.target.item}' ({outcome.target.flavor}) in {outcome.target.build} " ++
    s!"failed (clean: {outcome.clean.text}, build: {outcome.build.text}): {fault.cause.message}"

end BuildFault

end BenchmarkOrchestration
