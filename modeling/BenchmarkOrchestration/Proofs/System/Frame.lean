import BenchmarkOrchestration.Proofs.Commands.Timing
import BenchmarkOrchestration.System.FunctorScript
import Mathlib.Logic.Relation

namespace BenchmarkOrchestration

/-!
# What processes leave alone

A process works on the files of its machine and on a state of its own, whatever its script does.
Inside a script, tools and steps in a copy of the state touch files, input, printed texts and the
status, but no variable, function or directory.  On a machine, a process changes nothing but files,
and one that is not started changes nothing at all.  So a machine stays where it is and keeps its
variables over all look-ups, invocations and commands.
-/

namespace Interpreter

/-- A state differs from an earlier one in files, input, printed texts and the status at most. -/
def State.SameInside
    (before after : State) :
    Prop :=
  after =
    { before with
      tree := after.tree
      input := after.input
      kept := after.kept
      status := after.status }

namespace State

/-- Texts that are printed stay outside of the state. -/
theorem pour_sameInside
    (state : State)
    (source : Source)
    (sink : Sink) :
    state.SameInside (state.pour source sink) := by
  cases sink with
  | kept index => rfl
  | nothing => rfl
  | file location =>
      rw [SameInside, pour, appendAt]
      split <;> rfl

/-- Printing to a descriptor stays outside of the state. -/
theorem write_sameInside
    (state : State)
    (descriptor : Nat)
    (source : Source) :
    state.SameInside (state.write descriptor source) := by
  rw [write]
  split
  · exact pour_sameInside state source _
  · rfl

/-- What two changes in turn leave alone. -/
theorem SameInside.trans
    {first second third : State}
    (front : first.SameInside second)
    (back : second.SameInside third) :
    first.SameInside third := by
  rw [SameInside] at front back ⊢
  rw [back, front]

end State

namespace Run

variable {state after : State}

/-- Steps go on behind others that ended without a jump. -/
theorem bind_of_ok
    {steps : Run α}
    {result : α}
    {rest : α → Run β}
    (ran : steps state = (.ok result, after)) :
    (steps >>= rest) state = rest result after := by
  change
    (match steps state with
      | (answer, later) => ExceptT.bindCont rest answer later) = _
  rw [ran]
  rfl

theorem get_eq :
    (get : Run State) state = (.ok state, state) :=
  rfl

theorem set_eq :
    (set after : Run Unit) state = (.ok (), after) :=
  rfl

theorem modify_eq
    (change : State → State) :
    (modify change : Run Unit) state = (.ok (), change state) :=
  rfl

/-- Steps are attempted without a jump: how they end is the result. -/
theorem exists_attempt_eq
    (body : Run Unit)
    (before : State) :
    ∃ jump later, attempt body before = (.ok jump, later) := by
  rw [attempt]
  rcases body before with ⟨jump | nothing, later⟩
  · exact ⟨some jump, later, rfl⟩
  · exact ⟨none, later, rfl⟩

/-- Steps in a copy of the state leave the inside of the state alone, however they end. -/
theorem exists_inCopy_eq
    (prepare : State → State)
    (body : Run Unit)
    (before : State) :
    ∃ jump later, inCopy prepare body before = (.ok jump, later) ∧ before.SameInside later := by
  obtain ⟨jump, copy, attempted⟩ := exists_attempt_eq body { prepare before with farewell := [] }
  refine ⟨jump, { before.takeOutside copy with status := statusOf copy jump }, ?_, rfl⟩
  rw [inCopy, bind_of_ok get_eq, bind_of_ok set_eq, bind_of_ok attempted, bind_of_ok get_eq,
    bind_of_ok set_eq]
  rfl

/-- A subshell leaves the inside of the state alone, also when it is killed. -/
theorem inSubshell_sameInside
    (prepare : State → State)
    (body : Run Unit)
    (before : State) :
    before.SameInside (inSubshell prepare body before).2 := by
  obtain ⟨jump, later, copied, same⟩ := exists_inCopy_eq prepare body before
  rw [inSubshell, bind_of_ok copied]
  split <;> exact same

/-- Redirections of a command end with it, also by a jump. -/
theorem sinks_keepingStreams
    (changesInput : Bool)
    (body : Run Unit)
    (before : State) :
    (keepingStreams changesInput body before).2.sinks = before.sinks := by
  obtain ⟨jump, later, attempted⟩ := exists_attempt_eq body before
  rw [keepingStreams, bind_of_ok get_eq, bind_of_ok attempted, bind_of_ok (modify_eq _)]
  cases jump <;> rfl

/-- Failures are looked at again as before behind steps whose own failure is looked at. -/
theorem isTested_tested
    (body : Run Unit)
    (before : State) :
    (tested body before).2.isTested = before.isTested := by
  obtain ⟨jump, later, attempted⟩ := exists_attempt_eq body { before with isTested := true }
  rw [tested, bind_of_ok get_eq, bind_of_ok set_eq, bind_of_ok attempted,
    bind_of_ok (modify_eq _)]
  cases jump <;> rfl

/-- A tool works on files and streams only, whichever it is. -/
theorem callTool_sameInside
    (isInner : Bool)
    (name : Octets)
    (tool : ToolCall → ToolResult)
    (arguments : List Octets)
    (before : State) :
    before.SameInside (callTool isInner name tool arguments before).2 := by
  rw [callTool, modify_eq]
  refine .trans (.trans ?_ (State.write_sameInside _ 1 _)) (State.write_sameInside _ 2 _)
  rfl

end Run

end Interpreter

namespace Machine

/-- A machine differs from an earlier one in its files at most. -/
def SameBesideFiles
    (before after : Machine) :
    Prop :=
  after = { before with tree := after.tree }

/-- A machine is in the directory of an earlier one and has its variables. -/
structure SamePlace
    (before after : Machine) :
    Prop where
  here : after.here = before.here
  environment : after.environment = before.environment

variable {before after : Machine}

namespace SameBesideFiles

theorem samePlace
    (same : before.SameBesideFiles after) :
    before.SamePlace after := by
  rw [SameBesideFiles] at same
  rw [same]
  exact ⟨rfl, rfl⟩

end SameBesideFiles

/-- A process changes nothing but files, and nothing at all if it is not started. -/
theorem launch_frame
    (launch : Launch)
    (machine : Machine) :
    machine.SameBesideFiles (machine.launch launch).2 ∧
      ∀ reason,
        (machine.launch launch).1 = .notStarted reason → (machine.launch launch).2 = machine := by
  rw [Machine.launch]
  split
  · exact ⟨rfl, fun _ _ => rfl⟩
  · split
    · exact ⟨rfl, fun _ _ => rfl⟩
    · split
      · exact ⟨rfl, fun _ _ => rfl⟩
      · exact ⟨rfl, fun _ _ => rfl⟩
      · refine ⟨rfl, ?_⟩
        intro reason finished
        cases finished

/-- A command changes the machine by its process and the clock, and not at all if it is dry. -/
theorem run_frame
    (command : Command)
    (machine : Machine) :
    machine.SamePlace (machine.run command).2 ∧
      (command.isDry = true → (machine.run command).2 = machine) := by
  rw [run]
  cases isDry : command.isDry with
  | true =>
      rw [Command.run, isDry]
      exact ⟨⟨rfl, rfl⟩, fun _ => rfl⟩
  | false =>
      have same : machine.SamePlace (machine.execute command).2 :=
        (launch_frame _ machine).1.samePlace
      refine ⟨?_, fun dry => absurd dry Bool.false_ne_true⟩
      rw [Command.run_of_real execute machine.clock machine isDry]
      generalize machine.execute command = executed at same ⊢
      obtain ⟨outcome, later⟩ := executed
      cases outcome <;> exact ⟨same.here, same.environment⟩

/-- Asking a functor for its method changes files at most. -/
theorem askMethod_frame
    (functor : FunctorScript)
    (root : Location)
    (machine : Machine) :
    machine.SameBesideFiles (functor.askMethod root machine).2 :=
  (launch_frame _ machine).1

/-- An invocation changes files at most. -/
theorem invoke_frame
    (functor : FunctorScript)
    (mode : InvocationMode)
    (context : FunctorContext)
    (machine : Machine) :
    machine.SameBesideFiles (functor.invoke mode context machine).2 :=
  (launch_frame _ machine).1

/-- A look-up changes files at most, in the way in which a functor is asked for its method. -/
theorem resolveBy_frame
    {ask : FunctorScript → Location → Machine → Except FunctorFault Bool × Machine}
    (asks : ∀ functor root before, SameBesideFiles before (ask functor root before).2)
    (directory : String)
    (name : FunctorName)
    (machine : Machine) :
    machine.SameBesideFiles (FunctorScript.resolveBy ask directory name machine).2 := by
  rw [FunctorScript.resolveBy]
  split
  · dsimp only
    split
    · rfl
    · exact asks _ _ _
  · rfl

/-- One use of the facilities of a machine. -/
inductive Uses : Machine → Machine → Prop
  | resolve (directory : String) (name : FunctorName) (machine : Machine) :
      Uses machine (facilities.resolve directory name machine).2
  | invoke
      (functor : FunctorScript)
      (mode : InvocationMode)
      (context : FunctorContext)
      (machine : Machine) :
      Uses machine (facilities.invoke functor mode context machine).2
  | run (command : Command) (machine : Machine) :
      Uses machine (facilities.run command machine).2

/-- A machine stays in its place over one use of its facilities. -/
theorem Uses.samePlace
    (used : Uses before after) :
    before.SamePlace after := by
  cases used with
  | resolve directory name =>
      exact (resolveBy_frame askMethod_frame directory name before).samePlace
  | invoke functor mode context => exact (invoke_frame functor mode context before).samePlace
  | run command => exact (run_frame command before).1

/-- A machine stays in its place over all uses of its facilities. -/
theorem samePlace_of_uses
    (used : Relation.ReflTransGen Uses before after) :
    before.SamePlace after := by
  induction used with
  | refl => exact ⟨rfl, rfl⟩
  | tail _ last inductionHypothesis =>
      exact
        ⟨last.samePlace.here.trans inductionHypothesis.here,
          last.samePlace.environment.trans inductionHypothesis.environment⟩

end Machine

end BenchmarkOrchestration
