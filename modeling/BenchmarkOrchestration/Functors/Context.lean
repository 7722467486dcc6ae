import BenchmarkOrchestration.Model.SortedTable
import BenchmarkOrchestration.Naming.FunctorName

namespace BenchmarkOrchestration

/-!
# Invoking functors

A functor is asked once how it works.  An active functor performs its step itself; a passive one
prints the command that performs it.  Options reach a functor as environment variables, whose names
are the option names in upper case behind a fixed start.
-/

/-- How a functor is invoked. -/
inductive InvocationMode where
  | active
  | passive
  deriving Repr, DecidableEq

namespace InvocationMode

/-- The word for the mode, which is also the first argument of the functor. -/
def name : InvocationMode → String
  | .active => "active"
  | .passive => "passive"

end InvocationMode

/-- Everything that an invocation hands to a functor. -/
structure FunctorContext where
  benchmark : String
  directory : String
  options : SortedTable
  arguments : List String
  deriving DecidableEq

namespace FunctorContext

/-- A context without options and arguments. -/
def plain
    (benchmark directory : String) :
    FunctorContext :=
  ⟨benchmark, directory, .empty, []⟩

/-- The environment variable of an option. -/
def variableName
    (key : String) :
    String :=
  "PIRA_" ++ key.toUpper

/-- The environment of an invocation, in the order of the option names. -/
def environment
    (context : FunctorContext) :
    List (String × String) :=
  context.options.entries.map fun (key, value) => (variableName key, value)

end FunctorContext

/-- Why a functor cannot be found or does not do its work. -/
inductive FunctorFault where
  | missingDirectory (directory : String)
  | missingFile (directory file : String)
  | protocol (functor reason : String)
  | invocation (functor reason : String)
  deriving Repr, DecidableEq

namespace FunctorFault

/-- The text shown to the user. -/
def message : FunctorFault → String
  | .missingDirectory directory =>
      s!"Functor directory does not exist: {directory}"
  | .missingFile directory file =>
      s!"Functor '{file}' not found in {directory}"
  | .protocol functor reason =>
      s!"Functor '{functor}' violated the protocol: {reason}"
  | .invocation functor reason =>
      s!"Functor '{functor}' failed: {reason}"

end FunctorFault

end BenchmarkOrchestration
