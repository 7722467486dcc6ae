import BenchmarkOrchestration.Commands.Runner
import BenchmarkOrchestration.Proofs.Commands.Readings
import Mathlib.Algebra.BigOperators.Group.List.Basic

namespace BenchmarkOrchestration

/-!
# Timing of commands

Commands that are run one after the other share one clock.  How many readings a command takes is
decided by what becomes of its process and by nothing else, so that every run time is measured by
two readings of its own, whatever the commands before it were.
-/

/-- Nothing was matched by a filter: its exit code is one, and the command mentions `grep`. -/
def Command.MatchesNothing
    (command : Command)
    (exitCode : Option Int) :
    Prop :=
  exitCode = some 1 ∧ ∃ before after, command.text = before ++ "grep " ++ after

/-- An exit is tolerated exactly if it tells that nothing was matched. -/
theorem Command.toleratesExit_iff
    {command : Command}
    {exitCode : Option Int} :
    command.toleratesExit exitCode = true ↔ command.MatchesNothing exitCode := by
  rw [toleratesExit, Bool.and_eq_true, decide_eq_true_iff, textContains_iff]
  rfl

/--
A command that was run, with the outcome of the process if it was handed to the system, the readings
that it took from the clock, and its result.
-/
structure CommandRun where
  command : Command
  outcome : Option ProcessOutcome
  readings : List Int64
  result : Except CommandFault CommandOutput

namespace CommandRun

/-- What was handed to the system, with the outcome. -/
def handed
    (run : CommandRun) :
    List (Command × ProcessOutcome) :=
  run.outcome.toList.map (Prod.mk run.command)

/-- The runs of commands: each takes as many readings as its process gives occasion to. -/
inductive IsMeasured : CommandRun → Prop
  | dry
      (command : Command)
      (isDry : command.isDry = true) :
      IsMeasured ⟨command, none, [], .ok .ofDryRun⟩
  | notStarted
      (command : Command)
      (real : command.isDry = false)
      (start : Int64)
      (reason : String) :
      IsMeasured
        ⟨command, some (.notStarted reason), [start], .error (.notStarted command.text reason)⟩
  | notAwaited
      (command : Command)
      (real : command.isDry = false)
      (start : Int64)
      (reason : String) :
      IsMeasured ⟨command, some (.notAwaited reason), [start], .error (.unobserved reason)⟩
  | succeeded
      (command : Command)
      (real : command.isDry = false)
      (start stop : Int64)
      (stdout stderr : Octets) :
      IsMeasured
        ⟨command, some (.finished (some 0) stdout stderr), [start, stop],
          .ok ⟨Octets.toText stdout,
            if command.isTimed then .between start stop else .untimed⟩⟩
  | tolerated
      (command : Command)
      (real : command.isDry = false)
      (start stop : Int64)
      (exitCode : Option Int)
      (stdout stderr : Octets)
      (matchesNothing : command.MatchesNothing exitCode) :
      IsMeasured
        ⟨command, some (.finished exitCode stdout stderr), [start, stop], .ok .ofNoMatch⟩
  | failed
      (command : Command)
      (real : command.isDry = false)
      (start stop : Int64)
      (exitCode : Option Int)
      (stdout stderr : Octets)
      (nonzero : exitCode ≠ some 0)
      (notTolerated : ¬ command.MatchesNothing exitCode) :
      IsMeasured
        ⟨command, some (.finished exitCode stdout stderr), [start, stop],
          .error (.failed command.text exitCode (trimText (Octets.toText stderr)))⟩

/-- The readings that several runs took together. -/
def readingsTaken
    (runs : List CommandRun) :
    Nat :=
  (runs.map fun run => run.readings.length).sum

/-- The process of a command has finished with an exit code. -/
def ExitedWith
    (run : CommandRun)
    (exitCode : Option Int) :
    Prop :=
  ∃ stdout stderr, run.outcome = some (.finished exitCode stdout stderr)

/-- A command gets no run time: it is dry, or it succeeds and is not to be timed. -/
def IsUntimed
    (run : CommandRun) :
    Prop :=
  run.command.isDry = true ∨ run.ExitedWith (some 0) ∧ run.command.isTimed = false

/-- What is known of a run whose process has finished. -/
structure Finished
    (run : CommandRun)
    (exitCode : Option Int)
    (stdout stderr : Octets) :
    Prop where
  twoReadings : ∃ start stop, run.readings = [start, stop]
  succeeds :
    exitCode = some 0 →
      ∃ runtime,
        run.result = .ok ⟨Octets.toText stdout, runtime⟩ ∧
          (run.command.isTimed = false → runtime = .untimed) ∧
          (run.command.isTimed = true →
            ∃ start stop, run.readings = [start, stop] ∧ runtime = .between start stop)
  matchesNothing :
    run.command.MatchesNothing exitCode →
      run.result = .ok ⟨"", .zero⟩ ∧ Runtime.zero.seconds.value = 0
  fails :
    exitCode ≠ some 0 →
      ¬ run.command.MatchesNothing exitCode →
        run.result =
          .error (.failed run.command.text exitCode (trimText (Octets.toText stderr)))

/-- A filter that matches nothing does not exit with zero. -/
theorem not_matchesNothing_zero
    (command : Command) :
    ¬ command.MatchesNothing (some 0) := by
  intro matchesNothing
  have one := matchesNothing.1
  simp at one

/-- A measured run whose process has finished took two readings, and its exit code decides. -/
theorem IsMeasured.finished
    {run : CommandRun}
    (measured : run.IsMeasured)
    {exitCode : Option Int}
    {stdout stderr : Octets}
    (exited : run.outcome = some (.finished exitCode stdout stderr)) :
    run.Finished exitCode stdout stderr := by
  cases measured with
  | dry command isDry => cases exited
  | notStarted command real start reason => cases exited
  | notAwaited command real start reason => cases exited
  | succeeded command real start stop _ _ =>
      cases exited
      refine ⟨⟨start, stop, rfl⟩, ?_, ?_, ?_⟩
      · intro _
        refine ⟨_, rfl, ?_, ?_⟩
        · intro untimed
          have notTimed : command.isTimed ≠ true := by simpa using untimed
          exact if_neg notTimed
        · intro timed
          exact ⟨start, stop, rfl, if_pos timed⟩
      · intro matchesNothing
        exact absurd matchesNothing (not_matchesNothing_zero command)
      · intro nonzero
        exact absurd rfl nonzero
  | tolerated command real start stop _ _ _ matchesNothing =>
      cases exited
      refine ⟨⟨start, stop, rfl⟩, ?_, fun _ => ⟨rfl, Runtime.value_seconds_zero⟩, ?_⟩
      · rintro rfl
        exact absurd matchesNothing (not_matchesNothing_zero command)
      · intro _ notTolerated
        exact absurd matchesNothing notTolerated
  | failed command real start stop _ _ _ nonzero notTolerated =>
      cases exited
      refine ⟨⟨start, stop, rfl⟩, ?_, ?_, fun _ _ => rfl⟩
      · intro zero
        exact absurd zero nonzero
      · intro matchesNothing
        exact absurd matchesNothing notTolerated

end CommandRun

/-- The same system, which writes down every command that it gets and its outcome. -/
def witnessed
    (execute : Command → σ → ProcessOutcome × σ) :
    Command → σ × List (Command × ProcessOutcome) →
      ProcessOutcome × σ × List (Command × ProcessOutcome) :=
  fun command state =>
    let (outcome, later) := execute command state.1
    (outcome, later, state.2 ++ [(command, outcome)])

namespace Command

/-- Run commands one after the other on one system and with one clock. -/
def runInTurn
    (execute : Command → σ → ProcessOutcome × σ) :
    List Command → Clock → σ → List (Except CommandFault CommandOutput) × Clock × σ
  | [], clock, state => ([], clock, state)
  | command :: rest, clock, state =>
      let (result, clock, state) := command.run execute clock state
      let (results, clock, state) := runInTurn execute rest clock state
      (result :: results, clock, state)

section

variable
  (execute : Command → σ → ProcessOutcome × σ)
  (clock : Clock)
  (state : σ)
  (log : List (Command × ProcessOutcome))

/-- A command whose process has finished has one of three results. -/
theorem isMeasured_finished
    (command : Command)
    (real : command.isDry = false)
    (start stop : Int64)
    (exitCode : Option Int)
    (stdout stderr : Octets) :
    CommandRun.IsMeasured
      ⟨command, some (.finished exitCode stdout stderr), [start, stop],
        command.result exitCode stdout stderr (.between start stop)⟩ := by
  rw [result]
  by_cases zero : exitCode = some 0
  · subst zero
    exact .succeeded command real start stop stdout stderr
  · rw [if_neg zero]
    by_cases tolerated : command.toleratesExit exitCode = true
    · rw [if_pos tolerated]
      have matchesNothing := toleratesExit_iff.mp tolerated
      exact .tolerated command real start stop exitCode stdout stderr matchesNothing
    · rw [if_neg tolerated]
      have notTolerated := mt toleratesExit_iff.mpr tolerated
      exact .failed command real start stop exitCode stdout stderr zero notTolerated

/-- A command that is not dry takes a reading, and another one when its process has finished. -/
theorem run_of_real
    {command : Command}
    (real : command.isDry = false) :
    command.run execute clock state =
      match execute command state with
      | (.notStarted reason, later) =>
          (.error (.notStarted command.text reason), clock.after 1, later)
      | (.notAwaited reason, later) =>
          (.error (.unobserved reason), clock.after 1, later)
      | (.finished exitCode stdout stderr, later) =>
          (command.result exitCode stdout stderr (.between (clock.reading 0) (clock.reading 1)),
            clock.after 2, later) := by
  have first : clock.read = (clock.reading 0, clock.after 1) := clock.read_after 0
  have second := clock.read_after 1
  rw [run, real]
  obtain ⟨outcome, later⟩ := execute command state
  cases outcome <;> simp only [Bool.false_eq_true, if_false, first, second]

/-- A command is run in one of the ways in which runs are measured. -/
theorem exists_measured_run
    (command : Command) :
    ∃ run : CommandRun, ∃ later,
      run.IsMeasured ∧
        run.command = command ∧
        run.readings = clock.readingsFrom 0 run.readings.length ∧
        command.run execute clock state =
          (run.result, clock.after run.readings.length, later) ∧
        command.run (witnessed execute) clock (state, log) =
          (run.result, clock.after run.readings.length, later, log ++ run.handed) := by
  cases isDry : command.isDry with
  | true =>
      refine ⟨_, state, .dry command isDry, rfl, rfl, ?_, ?_⟩ <;>
        simp [run, isDry, Clock.after, CommandRun.handed]
  | false =>
      have plain := run_of_real execute clock state isDry
      have witness := run_of_real (witnessed execute) clock (state, log) isDry
      cases executed : execute command state with
      | mk outcome later =>
          rw [executed] at plain
          simp only [witnessed, executed] at witness
          cases outcome with
          | notStarted reason =>
              exact ⟨_, later, .notStarted command isDry (clock.reading 0) reason, rfl, rfl, plain,
                witness⟩
          | notAwaited reason =>
              exact ⟨_, later, .notAwaited command isDry (clock.reading 0) reason, rfl, rfl, plain,
                witness⟩
          | finished exitCode stdout stderr =>
              have measured :=
                isMeasured_finished command isDry (clock.reading 0) (clock.reading 1) exitCode
                  stdout stderr
              exact ⟨_, later, measured, rfl, rfl, plain, witness⟩

/-- Commands that are run in turn are measured one by one, each from where the clock is by then. -/
theorem exists_measured_runInTurn
    (commands : List Command) :
    ∃ runs : List CommandRun, ∃ later,
      runs.map CommandRun.command = commands ∧
        (∀ run ∈ runs, run.IsMeasured) ∧
        (∀ before run after,
          runs = before ++ run :: after →
            run.readings =
              clock.readingsFrom (CommandRun.readingsTaken before) run.readings.length) ∧
        runInTurn execute commands clock state =
          (runs.map CommandRun.result, clock.after (CommandRun.readingsTaken runs), later) ∧
        runInTurn (witnessed execute) commands clock (state, log) =
          (runs.map CommandRun.result, clock.after (CommandRun.readingsTaken runs), later,
            log ++ runs.flatMap CommandRun.handed) := by
  induction commands generalizing clock state log with
  | nil =>
      refine ⟨[], state, rfl, List.forall_mem_nil _, ?_, rfl, ?_⟩
      · intro before run after split
        simp at split
      · rw [List.flatMap_nil, List.append_nil]
        rfl
  | cons command rest inductionHypothesis =>
      obtain ⟨first, middle, measured, named, readings, plain, witness⟩ :=
        exists_measured_run execute clock state log command
      obtain ⟨others, later, othersNamed, othersMeasured, othersReadings, othersPlain,
          othersWitness⟩ :=
        inductionHypothesis (clock.after first.readings.length) middle (log ++ first.handed)
      have taken :
          CommandRun.readingsTaken (first :: others) =
            first.readings.length + CommandRun.readingsTaken others :=
        List.sum_cons
      refine ⟨first :: others, later, ?_, ?_, ?_, ?_, ?_⟩
      · rw [List.map_cons, named, othersNamed]
      · exact List.forall_mem_cons.mpr ⟨measured, othersMeasured⟩
      · intro before run after split
        rcases List.cons_eq_append_iff.mp split with ⟨rfl, same⟩ | ⟨between, rfl, same⟩
        · obtain ⟨rfl, rfl⟩ := List.cons.inj same
          exact readings
        · have own := othersReadings between run after same
          rw [Clock.readingsFrom_after] at own
          exact own
      · simp only [runInTurn, plain, othersPlain, Clock.after_after, ← taken, List.map_cons]
      · simp only [runInTurn, witness, othersWitness, Clock.after_after, ← taken, List.map_cons,
          List.flatMap_cons, List.append_assoc]

end

end Command

/--
Commands in turn are timed in isolation: each takes the readings that its process gives occasion to,
and these come right after the readings of the commands before it.
-/
structure IsolatesTiming
    (clock : Clock)
    (commands : List Command)
    (runs : List CommandRun) :
    Prop where
  inOrder : runs.map CommandRun.command = commands
  dry :
    ∀ run ∈ runs,
      run.command.isDry = true →
        run.outcome = none ∧ run.readings = [] ∧ run.result = .ok .ofDryRun
  handed : ∀ run ∈ runs, run.command.isDry = false → run.outcome ≠ none
  notStarted :
    ∀ run ∈ runs, ∀ reason,
      run.outcome = some (.notStarted reason) →
        run.readings.length = 1 ∧
          run.result = .error (.notStarted run.command.text reason)
  notAwaited :
    ∀ run ∈ runs, ∀ reason,
      run.outcome = some (.notAwaited reason) →
        run.readings.length = 1 ∧ run.result = .error (.unobserved reason)
  finished :
    ∀ run ∈ runs, ∀ exitCode stdout stderr,
      run.outcome = some (.finished exitCode stdout stderr) →
        run.Finished exitCode stdout stderr
  ownReadings :
    ∀ before run after,
      runs = before ++ run :: after →
        run.readings = clock.readingsFrom (CommandRun.readingsTaken before) run.readings.length
  noOthers :
    CommandRun.readingsTaken runs < clock.readings.length →
      (clock.after (CommandRun.readingsTaken runs)).readings =
        clock.readings.drop (CommandRun.readingsTaken runs)
  duration :
    clock.DifferencesFit →
      ∀ before run after,
        runs = before ++ run :: after →
          run.ExitedWith (some 0) →
            run.command.isTimed = true →
              ∃ output,
                run.result = .ok output ∧
                  output.runtime.milliseconds.toInt =
                    (clock.reading (CommandRun.readingsTaken before + 1)).toInt -
                      (clock.reading (CommandRun.readingsTaken before)).toInt ∧
                  output.runtime.seconds.IsSecondsOf
                    ((clock.reading (CommandRun.readingsTaken before + 1)).toInt -
                      (clock.reading (CommandRun.readingsTaken before)).toInt)
  marked :
    ∀ run ∈ runs, ∀ output,
      run.result = .ok output →
        run.IsUntimed → output.runtime = .untimed ∧ output.runtime.seconds.value = -1
  told :
    clock.DifferencesFit →
      clock.NonDecreasing →
        ∀ run ∈ runs, ∀ output,
          run.result = .ok output → ¬ run.IsUntimed → output.runtime.IsTold

namespace CommandRun.IsMeasured

variable
  {run : CommandRun}
  (measured : run.IsMeasured)

include measured

/-- A dry command is not handed over and takes no reading. -/
theorem of_dry
    (isDry : run.command.isDry = true) :
    run.outcome = none ∧ run.readings = [] ∧ run.result = .ok .ofDryRun := by
  cases measured with
  | dry command _ => exact ⟨rfl, rfl, rfl⟩
  | notStarted command real start reason => exact absurd isDry (Bool.eq_false_iff.mp real)
  | notAwaited command real start reason => exact absurd isDry (Bool.eq_false_iff.mp real)
  | succeeded command real start stop stdout stderr =>
      exact absurd isDry (Bool.eq_false_iff.mp real)
  | tolerated command real start stop exitCode stdout stderr matchesNothing =>
      exact absurd isDry (Bool.eq_false_iff.mp real)
  | failed command real start stop exitCode stdout stderr nonzero notTolerated =>
      exact absurd isDry (Bool.eq_false_iff.mp real)

/-- Only a dry command is not handed over. -/
theorem isDry_of_outcome_eq_none
    (nothing : run.outcome = none) :
    run.command.isDry = true := by
  cases measured with
  | dry command isDry => exact isDry
  | notStarted command real start reason => cases nothing
  | notAwaited command real start reason => cases nothing
  | succeeded command real start stop stdout stderr => cases nothing
  | tolerated command real start stop exitCode stdout stderr matchesNothing => cases nothing
  | failed command real start stop exitCode stdout stderr nonzero notTolerated => cases nothing

/-- A process that is not started leaves its command with one reading. -/
theorem of_notStarted
    {reason : String}
    (notStarted : run.outcome = some (.notStarted reason)) :
    run.readings.length = 1 ∧ run.result = .error (.notStarted run.command.text reason) := by
  cases measured with
  | notStarted command real start _ =>
      cases notStarted
      exact ⟨rfl, rfl⟩
  | dry command isDry => cases notStarted
  | notAwaited command real start reason => cases notStarted
  | succeeded command real start stop stdout stderr => cases notStarted
  | tolerated command real start stop exitCode stdout stderr matchesNothing => cases notStarted
  | failed command real start stop exitCode stdout stderr nonzero notTolerated => cases notStarted

/-- A process that is not awaited leaves its command with one reading. -/
theorem of_notAwaited
    {reason : String}
    (notAwaited : run.outcome = some (.notAwaited reason)) :
    run.readings.length = 1 ∧ run.result = .error (.unobserved reason) := by
  cases measured with
  | notAwaited command real start _ =>
      cases notAwaited
      exact ⟨rfl, rfl⟩
  | dry command isDry => cases notAwaited
  | notStarted command real start reason => cases notAwaited
  | succeeded command real start stop stdout stderr => cases notAwaited
  | tolerated command real start stop exitCode stdout stderr matchesNothing => cases notAwaited
  | failed command real start stop exitCode stdout stderr nonzero notTolerated => cases notAwaited

/-- A command without a run time has the mark instead. -/
theorem marked
    {output : CommandOutput}
    (succeeded : run.result = .ok output)
    (untimed : run.IsUntimed) :
    output.runtime = .untimed := by
  rcases untimed with isDry | ⟨⟨stdout, stderr, exited⟩, notTimed⟩
  · have dry := (measured.of_dry isDry).2.2
    obtain rfl := Except.ok.inj (succeeded.symm.trans dry)
    rfl
  · obtain ⟨runtime, result, untimed, _⟩ := (measured.finished exited).succeeds rfl
    obtain rfl := Except.ok.inj (succeeded.symm.trans result)
    exact untimed notTimed

section

variable
  {clock : Clock}
  {place : Nat}
  (own : run.readings = clock.readingsFrom place run.readings.length)

include own

/-- A timed command that succeeds gets the time between its own two readings. -/
theorem between_own_readings
    {stdout stderr : Octets}
    (exited : run.outcome = some (.finished (some 0) stdout stderr))
    (timed : run.command.isTimed = true) :
    run.result =
      .ok ⟨Octets.toText stdout,
        .between (clock.reading place) (clock.reading (place + 1))⟩ := by
  obtain ⟨runtime, result, _, between⟩ := (measured.finished exited).succeeds rfl
  obtain ⟨start, stop, readings, rfl⟩ := between timed
  have places : [start, stop] = [clock.reading place, clock.reading (place + 1)] := by
    rw [readings] at own
    exact own
  obtain ⟨rfl, rest⟩ := List.cons.inj places
  obtain rfl := List.head_eq_of_cons_eq rest
  exact result

/-- On a clock that never goes back, a run time is told as one. -/
theorem told
    (fit : clock.DifferencesFit)
    (nonDecreasing : clock.NonDecreasing)
    {output : CommandOutput}
    (succeeded : run.result = .ok output)
    (isTimed : ¬ run.IsUntimed) :
    output.runtime.IsTold := by
  apply Runtime.isTold_of_nonneg
  cases outcome : run.outcome with
  | none =>
      have isDry := measured.isDry_of_outcome_eq_none outcome
      exact absurd (.inl isDry) isTimed
  | some process =>
      cases process with
      | notStarted reason =>
          have failed := (measured.of_notStarted outcome).2
          rw [succeeded] at failed
          cases failed
      | notAwaited reason =>
          have failed := (measured.of_notAwaited outcome).2
          rw [succeeded] at failed
          cases failed
      | finished exitCode stdout stderr =>
          have finished := measured.finished outcome
          by_cases zero : exitCode = some 0
          · subst zero
            have timed : run.command.isTimed = true := by
              by_contra notTimed
              exact isTimed (.inr ⟨⟨stdout, stderr, outcome⟩, Bool.eq_false_iff.mpr notTimed⟩)
            have result := measured.between_own_readings own outcome timed
            obtain rfl := Except.ok.inj (succeeded.symm.trans result)
            have later := nonDecreasing place
            rw [Runtime.toInt_between (fit place)]
            omega
          · by_cases matchesNothing : run.command.MatchesNothing exitCode
            · have result := (finished.matchesNothing matchesNothing).1
              obtain rfl := Except.ok.inj (succeeded.symm.trans result)
              decide
            · have failed := finished.fails zero matchesNothing
              rw [succeeded] at failed
              cases failed

end

end CommandRun.IsMeasured

/--
Commands that share a clock are timed in isolation, whatever the system makes of them.  The system
gets exactly the commands that are not dry, in their order.
-/
theorem Command.runInTurn_isolatesTiming
    (execute : Command → σ → ProcessOutcome × σ)
    (commands : List Command)
    (clock : Clock)
    (state : σ) :
    ∃ runs : List CommandRun, ∃ later,
      runInTurn execute commands clock state =
          (runs.map CommandRun.result, clock.after (CommandRun.readingsTaken runs), later) ∧
        runInTurn (witnessed execute) commands clock (state, []) =
          (runs.map CommandRun.result, clock.after (CommandRun.readingsTaken runs), later,
            runs.flatMap CommandRun.handed) ∧
        IsolatesTiming clock commands runs := by
  obtain ⟨runs, later, named, measured, own, plain, witness⟩ :=
    exists_measured_runInTurn execute clock state [] commands
  refine ⟨runs, later, plain, witness, {
    inOrder := named
    dry := fun run member => (measured run member).of_dry
    handed := ?_
    notStarted := fun run member _ => (measured run member).of_notStarted
    notAwaited := fun run member _ => (measured run member).of_notAwaited
    finished := fun run member _ _ _ => (measured run member).finished
    ownReadings := own
    noOthers := Clock.readings_after
    duration := ?_
    marked := ?_
    told := ?_ }⟩
  · intro run member real nothing
    have isDry := (measured run member).isDry_of_outcome_eq_none nothing
    rw [real] at isDry
    cases isDry
  · intro fit before run after split exited timed
    obtain ⟨stdout, stderr, exited⟩ := exited
    have member : run ∈ runs := split ▸ List.mem_append_right before List.mem_cons_self
    have result :=
      (measured run member).between_own_readings (own before run after split) exited timed
    have difference := Runtime.toInt_between (fit (CommandRun.readingsTaken before))
    refine ⟨_, result, difference, ?_⟩
    rw [← difference]
    exact Runtime.isSecondsOf_seconds _
  · intro run member output succeeded untimed
    have isMark := (measured run member).marked succeeded untimed
    refine ⟨isMark, ?_⟩
    rw [isMark, Runtime.value_seconds_untimed]
  · intro fit nonDecreasing run member output succeeded isTimed
    obtain ⟨before, after, split⟩ := List.append_of_mem member
    have readings := own before run after split
    exact (measured run member).told readings fit nonDecreasing succeeded isTimed

namespace Command

/-- A system that gives one outcome after the other, whatever the commands are. -/
def giveOutcomes
    (_command : Command) :
    List ProcessOutcome → ProcessOutcome × List ProcessOutcome
  | [] => (.notStarted "nothing is left", [])
  | outcome :: rest => (outcome, rest)

/-- A clock that is read seven times. -/
def sevenReadings : Clock :=
  ⟨[0, 3, 4, 9, 20, 20, 31]⟩

/-- Timed commands: a dry one, one that is missing, a filter, one that fails and one that works. -/
def mixedCommands : List Command :=
  [ ⟨"make", none, [], true, true⟩,
    ⟨"missing", some "/nowhere", [], false, true⟩,
    ⟨"grep x log", none, [], false, true⟩,
    ⟨"false", none, [], false, true⟩,
    ⟨"make run", none, [], false, true⟩ ]

/-- What the system makes of the commands that are handed over. -/
def mixedOutcomes : List ProcessOutcome :=
  [ .notStarted "not found",
    .finished (some 1) [] [],
    .finished (some 2) "half".toList " broken\n".toList,
    .finished (some 0) "done".toList [] ]

/-- The last command is timed by its own readings, though all others took some or none before. -/
theorem runInTurn_isolatesTiming_mixed :
    sevenReadings.DifferencesFit ∧
      sevenReadings.NonDecreasing ∧
      (∃ runs later,
        runInTurn giveOutcomes mixedCommands sevenReadings mixedOutcomes =
            (runs.map CommandRun.result,
              sevenReadings.after (CommandRun.readingsTaken runs), later) ∧
          IsolatesTiming sevenReadings mixedCommands runs) ∧
      (runInTurn giveOutcomes mixedCommands sevenReadings mixedOutcomes).1 =
        [ .ok ⟨"", .untimed⟩,
          .error (.notStarted "missing" "not found"),
          .ok ⟨"", .zero⟩,
          .error (.failed "false" (some 2) "broken"),
          .ok ⟨"done", ⟨11⟩⟩ ] := by
  have steps :
      ∀ place,
        0 ≤ (sevenReadings.reading (place + 1)).toInt - (sevenReadings.reading place).toInt ∧
          (sevenReadings.reading (place + 1)).toInt - (sevenReadings.reading place).toInt ≤ 31 := by
    intro place
    match place with
    | 0 | 1 | 2 | 3 | 4 | 5 | 6 => decide
    | place + 7 => simp [sevenReadings, Clock.reading]
  refine ⟨fun place => ?_, fun place => ?_, ?_, by decide +kernel⟩
  · have step := steps place
    omega
  · have step := steps place
    omega
  · obtain ⟨runs, later, plain, _, isolates⟩ :=
      runInTurn_isolatesTiming giveOutcomes mixedCommands sevenReadings mixedOutcomes
    exact ⟨runs, later, plain, isolates⟩

end Command

end BenchmarkOrchestration
