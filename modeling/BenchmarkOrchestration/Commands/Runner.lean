import BenchmarkOrchestration.Commands.Clock
import BenchmarkOrchestration.Commands.Command
import BenchmarkOrchestration.Text.Blank
import BenchmarkOrchestration.Text.Octets

namespace BenchmarkOrchestration

/-!
# Running commands

A command is handed to a system, which answers with the outcome of a process.  The clock is read
before the process and once more after it, so that every run is measured by two readings of its
own.  Without a second reading ends a process that did not start or could not be awaited; a dry
command needs neither a process nor a reading.
-/

/-- What a system makes of a command. -/
inductive ProcessOutcome where
  | notStarted (reason : String)
  | notAwaited (reason : String)
  | finished (exitCode : Option Int) (stdout stderr : Octets)
  deriving Repr, DecidableEq

namespace CommandOutput

/-- The output of a command that was not run. -/
def ofDryRun : CommandOutput :=
  ⟨"", .untimed⟩

/-- The output of a filter that matched nothing. -/
def ofNoMatch : CommandOutput :=
  ⟨"", .zero⟩

end CommandOutput

namespace Command

/-- The result of a command whose process has finished after some time. -/
def result
    (command : Command)
    (exitCode : Option Int)
    (stdout stderr : Octets)
    (runtime : Runtime) :
    Except CommandFault CommandOutput :=
  if exitCode = some 0 then
    .ok ⟨Octets.toText stdout, if command.isTimed then runtime else .untimed⟩
  else if command.toleratesExit exitCode then
    .ok .ofNoMatch
  else
    .error (.failed command.text exitCode (trimText (Octets.toText stderr)))

/-- Run a command on a system with states `σ`, measured by a clock. -/
def run
    (command : Command)
    (execute : Command → σ → ProcessOutcome × σ)
    (clock : Clock)
    (state : σ) :
    Except CommandFault CommandOutput × Clock × σ :=
  if command.isDry then
    (.ok .ofDryRun, clock, state)
  else
    let (start, clock) := clock.read
    match execute command state with
    | (.notStarted reason, state) => (.error (.notStarted command.text reason), clock, state)
    | (.notAwaited reason, state) => (.error (.unobserved reason), clock, state)
    | (.finished exitCode stdout stderr, state) =>
        let (stop, clock) := clock.read
        (command.result exitCode stdout stderr (.between start stop), clock, state)

end Command

end BenchmarkOrchestration
