import BenchmarkOrchestration.Orchestration.RunMatrix
import BenchmarkOrchestration.Proofs.Arguments.Volume
import BenchmarkOrchestration.Targets.ExecutionTarget

namespace BenchmarkOrchestration

/-!
# Room for the arguments of all items

Preparing targets and generating the run matrix expand the arguments of one item after the other.
If there is room for all of them, a build of the program does what is done without regard to room.
A preparation or a generation that ends with a result has found room for everything.
-/

namespace Configuration

variable
  {config : Configuration}
  {overflow : Overflow}

/-- Preparing the targets panics for no item exactly if there is room for the arguments of each. -/
theorem targetPanic?_eq_none_iff :
    config.targetPanic? overflow = none ↔
      ∀ occurrence ∈ config.occurrences, occurrence.2.1.arguments.panic? overflow = none :=
  List.findSome?_eq_none_iff

/-- Targets are prepared exactly if there is room for the arguments of every item that has one. -/
theorem preparedTargets_eq_ok_iff
    {draw : IdentitySource σ}
    {filtersAtCompileTime : Bool}
    {source : σ}
    {result : List ExecutionTarget × σ} :
    config.preparedTargets overflow draw filtersAtCompileTime source = .ok result ↔
      (∀ occurrence ∈ config.occurrences, occurrence.2.1.arguments.panic? overflow = none) ∧
        config.executionTargets draw filtersAtCompileTime source = result := by
  rw [← targetPanic?_eq_none_iff, preparedTargets]
  cases config.targetPanic? overflow with
  | none => simp
  | some panic => simp

end Configuration

namespace RunMatrix

variable
  {overflow : Overflow}
  {facilities : Facilities σ ι}
  {options : SortedTable}
  {cell : String × String × Item}
  {cells : List (String × String × Item)}
  {session later : Session σ}

/-- There is room for the arguments of the item of a cell. -/
def HasRoom
    (overflow : Overflow)
    (cell : String × String × Item) :
    Prop :=
  cell.2.2.arguments.panic? overflow = none

/-- With room for its arguments, a cell gets the entry that it gets without regard to room. -/
theorem entryOrPanic_of_hasRoom
    (room : HasRoom overflow cell) :
    entryOrPanic overflow facilities options cell session =
      ((entry facilities options cell session).map .ok id) := by
  obtain ⟨flavor, directory, item⟩ := cell
  have none : item.arguments.panic? overflow = none := room
  simp only [entryOrPanic, none]
  rfl

/-- Without room for its arguments, a cell gets a failure of its look-up or a panic. -/
theorem entryOrPanic_of_panic
    (facilities : Facilities σ ι)
    (options : SortedTable)
    (session : Session σ)
    {panic : ExpansionPanic}
    (noRoom : cell.2.2.arguments.panic? overflow = some panic) :
    (∃ fault, (entryOrPanic overflow facilities options cell session).1 =
        .ok (.error (.functor fault))) ∨
      (entryOrPanic overflow facilities options cell session).1 = .error panic := by
  obtain ⟨flavor, directory, item⟩ := cell
  have some : item.arguments.panic? overflow = some panic := noRoom
  simp only [entryOrPanic, some, bind, StateT.bind]
  cases facilities.resolveFunctor item.functors.run (functorName item flavor) session with
  | mk answer state =>
      cases answer with
      | error fault => exact .inl ⟨fault, rfl⟩
      | ok functor => exact .inr rfl

/-- The entries go on behind an entry, and end at a failure or a panic. -/
theorem entriesOrPanic_cons
    (rest : List (String × String × Item)) :
    entriesOrPanic overflow facilities options (cell :: rest) session =
      match entryOrPanic overflow facilities options cell session with
      | (.error panic, later) => (.error panic, later)
      | (.ok (.error failure), later) => (.ok (.error failure), later)
      | (.ok (.ok first), between) =>
          match entriesOrPanic overflow facilities options rest between with
          | (.error panic, later) => (.error panic, later)
          | (.ok (.error failure), later) => (.ok (.error failure), later)
          | (.ok (.ok others), later) => (.ok (.ok (first :: others)), later) := by
  simp only [entriesOrPanic, bind, StateT.bind]
  rcases entryOrPanic overflow facilities options cell session with
    ⟨panic | failure | first, between⟩
  · rfl
  · rfl
  · simp only [StateT.bind]
    rcases entriesOrPanic overflow facilities options rest between with
      ⟨panic | failure | others, later⟩ <;> rfl

/-- Without regard to room, the entries go on behind an entry and end at a failure. -/
theorem entries_cons
    (rest : List (String × String × Item)) :
    entries facilities options (cell :: rest) session =
      match entry facilities options cell session with
      | (.error failure, later) => (.error failure, later)
      | (.ok first, between) =>
          match entries facilities options rest between with
          | (.error failure, later) => (.error failure, later)
          | (.ok others, later) => (.ok (first :: others), later) := by
  simp only [entries, bind, StateT.bind]
  rcases entry facilities options cell session with ⟨failure | first, between⟩
  · rfl
  · simp only [StateT.bind]
    rcases entries facilities options rest between with ⟨failure | others, later⟩ <;> rfl

/-- With room for the arguments of every cell, the entries are those made without regard to room. -/
theorem entriesOrPanic_of_hasRoom
    (room : ∀ cell ∈ cells, HasRoom overflow cell) :
    entriesOrPanic overflow facilities options cells session =
      (entries facilities options cells session).map .ok id := by
  induction cells generalizing session with
  | nil =>
      rfl
  | cons cell rest inductionHypothesis =>
      obtain ⟨here, behind⟩ := List.forall_mem_cons.mp room
      rw [entriesOrPanic_cons, entries_cons, entryOrPanic_of_hasRoom here]
      rcases entry facilities options cell session with ⟨failure | first, between⟩
      · rfl
      · simp only [Prod.map, id, inductionHypothesis behind]
        rcases entries facilities options rest between with ⟨failure | others, later⟩ <;> rfl

/-- A cell panics only for the reason that there is no room for its arguments. -/
theorem panic_of_entryOrPanic
    {panic : ExpansionPanic}
    (panicked : (entryOrPanic overflow facilities options cell session).1 = .error panic) :
    cell.2.2.arguments.panic? overflow = some panic := by
  cases reason : cell.2.2.arguments.panic? overflow with
  | none =>
      rw [entryOrPanic_of_hasRoom reason] at panicked
      cases panicked
  | some other =>
      rcases entryOrPanic_of_panic facilities options session reason with
        ⟨fault, failed⟩ | panickedHere
      · rw [panicked] at failed
        cases failed
      · rw [panicked] at panickedHere
        cases panickedHere
        rfl

/-- A cell that gets an entry has room for its arguments. -/
theorem hasRoom_of_entryOrPanic
    {found : RunEntry}
    (made : (entryOrPanic overflow facilities options cell session).1 = .ok (.ok found)) :
    HasRoom overflow cell := by
  cases noRoom : cell.2.2.arguments.panic? overflow with
  | none =>
      exact noRoom
  | some panic =>
      rcases entryOrPanic_of_panic facilities options session noRoom with
        ⟨fault, failed⟩ | panicked
      · rw [made] at failed
        cases failed
      · rw [made] at panicked
        cases panicked

/-- Entries for all cells are only made if there is room for the arguments of every cell. -/
theorem hasRoom_of_entriesOrPanic
    {found : List RunEntry}
    (generated : (entriesOrPanic overflow facilities options cells session).1 = .ok (.ok found)) :
    ∀ cell ∈ cells, HasRoom overflow cell := by
  induction cells generalizing session found with
  | nil =>
      exact List.forall_mem_nil _
  | cons cell rest inductionHypothesis =>
      rw [entriesOrPanic_cons] at generated
      rcases made : entryOrPanic overflow facilities options cell session with
        ⟨panic | failure | first, between⟩
      · rw [made] at generated
        cases generated
      · rw [made] at generated
        cases generated
      · rw [made] at generated
        have here := hasRoom_of_entryOrPanic (congrArg Prod.fst made)
        dsimp only at generated
        rcases others : entriesOrPanic overflow facilities options rest between with
          ⟨panic | failure | foundBehind, later⟩
        · rw [others] at generated
          cases generated
        · rw [others] at generated
          cases generated
        · have behind := inductionHypothesis (congrArg Prod.fst others)
          exact List.forall_mem_cons.mpr ⟨here, behind⟩

/--
A generation that panics does so at the first cell without room that it comes to, and for the reason
of this cell.
-/
theorem exists_cell_of_entriesOrPanic_eq_error
    {panic : ExpansionPanic}
    (panicked : (entriesOrPanic overflow facilities options cells session).1 = .error panic) :
    ∃ before cell rest,
      cells = before ++ cell :: rest ∧
        (∀ earlier ∈ before, HasRoom overflow earlier) ∧
        cell.2.2.arguments.panic? overflow = some panic := by
  induction cells generalizing session with
  | nil =>
      cases panicked
  | cons cell rest inductionHypothesis =>
      rw [entriesOrPanic_cons] at panicked
      rcases made : entryOrPanic overflow facilities options cell session with
        ⟨here | failure | first, between⟩
      · rw [made] at panicked
        cases panicked
        have reason := panic_of_entryOrPanic (congrArg Prod.fst made)
        exact ⟨[], cell, rest, rfl, List.forall_mem_nil _, reason⟩
      · rw [made] at panicked
        cases panicked
      · rw [made] at panicked
        have room := hasRoom_of_entryOrPanic (congrArg Prod.fst made)
        dsimp only at panicked
        rcases others : entriesOrPanic overflow facilities options rest between with
          ⟨behind | failure | foundBehind, later⟩
        · rw [others] at panicked
          cases panicked
          obtain ⟨before, failing, after, rfl, earlier, reason⟩ :=
            inductionHypothesis (congrArg Prod.fst others)
          exact ⟨cell :: before, failing, after, rfl,
            List.forall_mem_cons.mpr ⟨room, earlier⟩, reason⟩
        · rw [others] at panicked
          cases panicked
        · rw [others] at panicked
          cases panicked

end RunMatrix

/--
A build of the program generates the run matrix exactly if there is room for the arguments of every
cell, and the entries then are those of the run matrix.
-/
theorem Configuration.runMatrixOrPanic_eq_ok_iff
    {overflow : Overflow}
    {config : Configuration}
    {facilities : Facilities σ ι}
    {options : SortedTable}
    {session later : Session σ}
    {found : List RunEntry} :
    config.runMatrixOrPanic overflow facilities options session = (.ok (.ok found), later) ↔
      (∀ cell ∈ RunMatrix.cells config, RunMatrix.HasRoom overflow cell) ∧
        config.runMatrix facilities options session = (.ok found, later) := by
  rw [runMatrixOrPanic, runMatrix]
  constructor
  · intro generated
    have room := RunMatrix.hasRoom_of_entriesOrPanic (congrArg Prod.fst generated)
    rw [RunMatrix.entriesOrPanic_of_hasRoom room] at generated
    refine ⟨room, ?_⟩
    rcases made : RunMatrix.entries facilities options (RunMatrix.cells config) session with
      ⟨answer, state⟩
    rw [made] at generated
    cases generated
    rfl
  · intro generated
    obtain ⟨room, made⟩ := generated
    rw [RunMatrix.entriesOrPanic_of_hasRoom room, made]
    rfl

end BenchmarkOrchestration
