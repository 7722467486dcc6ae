import BenchmarkOrchestration.Commands.Command
import BenchmarkOrchestration.Fault
import BenchmarkOrchestration.Functors.Context

namespace BenchmarkOrchestration

/-!
# Failures of whole operations

Loading a configuration, generating the run matrix and analyzing a target fail with a fault of one
of several kinds, whose message is shown behind the kind.
-/

/-- Why an operation failed. -/
inductive Failure where
  | document (fault : DocumentFault)
  | malformed
  | lookup (fault : LookupFault)
  | functor (fault : FunctorFault)
  | command (fault : CommandFault)
  deriving Repr, DecidableEq

namespace Failure

/-- The message of the fault alone. -/
def cause : Failure → String
  | .document fault => fault.message
  | .malformed => "the text is not one JSON value"
  | .lookup fault => fault.message
  | .functor fault => fault.message
  | .command fault => fault.message

/-- The kind of a fault, as it is shown before the message. -/
def kind : Failure → String
  | .document _ => "Configuration error"
  | .malformed => "Serialization error"
  | .lookup _ => "Lookup error"
  | .functor _ => "Functor error"
  | .command _ => "Shell error"

/-- The text shown to the user. -/
def message
    (failure : Failure) :
    String :=
  s!"{failure.kind}: {failure.cause}"

end Failure

end BenchmarkOrchestration
