import BenchmarkOrchestration.Number.Decimal
import BenchmarkOrchestration.Text.Affix

namespace BenchmarkOrchestration

/-!
# Commands and their results

A command is a text for the command interpreter with a directory, an environment and two flags.
Run times are counted in milliseconds; a run that was not timed has a run time of minus one second.
-/

/-- A command text and how to run it. -/
structure Command where
  text : String
  directory : Option String
  environment : List (String × String)
  isDry : Bool
  isTimed : Bool
  deriving Repr, DecidableEq

/-- A run time in milliseconds, or the mark of a run without one. -/
structure Runtime where
  milliseconds : Int64
  deriving Repr, DecidableEq

namespace Runtime

/-- The mark of a run that was not timed. -/
def untimed : Runtime :=
  ⟨-1000⟩

/-- A run of no duration. -/
def zero : Runtime :=
  ⟨0⟩

/-- The time between two readings of a clock. -/
def between
    (start stop : Int64) :
    Runtime :=
  ⟨stop - start⟩

/-- The binary number nearest to a number of milliseconds, as seconds. -/
def seconds
    (runtime : Runtime) :
    Binary64 :=
  let count := runtime.milliseconds.toInt
  let exact := (Binary64.ofQuotient? count.natAbs 1).getD ⟨0⟩
  let quotient :=
    Binary64.ofQuotient?
      (exact.significand * Nat.pow 2 exact.power.toNat)
      (1000 * Nat.pow 2 (-exact.power).toNat)
  (quotient.getD ⟨0⟩).withSign (count < 0)

/-- The seconds with three digits after the point. -/
def text
    (runtime : Runtime) :
    String :=
  runtime.seconds.fixedText 3

end Runtime

/-- What a command that succeeded has printed, and how long it took. -/
structure CommandOutput where
  stdout : String
  runtime : Runtime
  deriving Repr, DecidableEq

/-- Why a command did not succeed.  A process that a signal ended has no exit code. -/
inductive CommandFault where
  | notStarted (command reason : String)
  | failed (command : String) (exitCode : Option Int) (stderr : String)
  | unobserved (reason : String)
  deriving Repr, DecidableEq

/-- The text of an exit code. -/
def exitCodeText : Option Int → String
  | some code => s!"Some({code})"
  | none => "None"

namespace CommandFault

/-- The text shown to the user. -/
def message : CommandFault → String
  | .notStarted command reason =>
      s!"Spawn failed for '{command}': {reason}"
  | .failed command exitCode stderr =>
      s!"Running command '{command}' did not succeed (exit {exitCodeText exitCode}): {stderr}"
  | .unobserved reason =>
      s!"IO error: {reason}"

end CommandFault

namespace Command

/-- A command that runs in a directory. -/
def inDirectory
    (text directory : String)
    (isDry : Bool) :
    Command :=
  ⟨text, some directory, [], isDry, false⟩

/-- A filter that matches nothing exits with one, which is no failure. -/
def toleratesExit
    (command : Command)
    (exitCode : Option Int) :
    Bool :=
  exitCode = some 1 && textContains command.text "grep "

end Command

end BenchmarkOrchestration
