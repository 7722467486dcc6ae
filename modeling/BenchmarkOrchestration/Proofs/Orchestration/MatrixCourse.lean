import BenchmarkOrchestration.Proofs.Orchestration.Meetings
import BenchmarkOrchestration.Proofs.Orchestration.Transcript

namespace BenchmarkOrchestration

/-!
# Courses of the run matrix

Every cell takes a turn: its run functor is looked up and invoked.  A turn that prints a script
gives an entry, and the generation goes on; the first other turn ends it.  The generation as a whole
is therefore described by the successful turns and, if it stops, by the one that fails.
-/

/-- The answer to a use is a success; an invocation must also print something. -/
def Exchange.Succeeds : Exchange ι → Prop
  | .resolved _ _ answer => ∃ functor, answer = .ok functor
  | .invoked _ _ _ answer => ∃ output, answer = .ok output ∧ output ≠ ""
  | .commanded _ answer => ∃ output, answer = .ok output

namespace RunMatrix

/-- The context in which the run functor of a cell is invoked: in the directory of the build. -/
def cellContext
    (options : SortedTable)
    (cell : String × String × Item) :
    FunctorContext :=
  ⟨cell.2.2.benchmark, cell.2.1, options, cell.2.2.arguments.asList⟩

/-- Looking up the run functor of a cell. -/
def lookupExchange
    (cell : String × String × Item)
    (answer : Except FunctorFault (ResolvedFunctor ι)) :
    Exchange ι :=
  .resolved cell.2.2.functors.run (functorName cell.2.2 cell.1) answer

/-- Invoking the run functor of a cell, which is done in active mode. -/
def generatorExchange
    (options : SortedTable)
    (cell : String × String × Item)
    (generator : ResolvedFunctor ι)
    (answer : Except FunctorFault String) :
    Exchange ι :=
  .invoked generator.handle .active (cellContext options cell) answer

/-- A turn in which the run functor of a cell is found and prints a script. -/
structure Turn (ι : Type) where
  cell : String × String × Item
  generator : ResolvedFunctor ι
  script : String
  isPrinted : script ≠ ""

namespace Turn

/-- The two uses of the facilities in a turn. -/
def exchanges
    (options : SortedTable)
    (turn : Turn ι) :
    Transcript ι :=
  [ lookupExchange turn.cell (.ok turn.generator),
    generatorExchange options turn.cell turn.generator (.ok turn.script) ]

/-- The entry that a turn gives. -/
def entry
    (turn : Turn ι) :
    RunEntry :=
  ⟨turn.cell.2.1, turn.cell.2.2.benchmark, turn.cell.1, turn.script,
    turn.cell.2.2.arguments.asList⟩

end Turn

/-- The turns that give no entry. -/
inductive FailedTurn
    (options : SortedTable)
    (cell : String × String × Item) :
    Transcript ι → Failure → Prop
  | unresolved
      (fault : FunctorFault) :
      FailedTurn options cell [lookupExchange cell (.error fault)] (.functor fault)
  | refused
      (generator : ResolvedFunctor ι)
      (fault : FunctorFault) :
      FailedTurn options cell
        [ lookupExchange cell (.ok generator),
          generatorExchange options cell generator (.error fault) ]
        (.functor fault)
  | silent
      (generator : ResolvedFunctor ι) :
      FailedTurn options cell
        [lookupExchange cell (.ok generator), generatorExchange options cell generator (.ok "")]
        (.functor
          (.protocol (functorName cell.2.2 cell.1).fileName
            "run generator printed no script path"))

/-- The courses of one turn. -/
inductive EntryCourse
    (options : SortedTable)
    (cell : String × String × Item) :
    Transcript ι → Except Failure RunEntry → Prop
  | printed
      (turn : Turn ι)
      (same : turn.cell = cell) :
      EntryCourse options cell (turn.exchanges options) (.ok turn.entry)
  | failed
      {exchanges : Transcript ι}
      {failure : Failure}
      (fails : FailedTurn options cell exchanges failure) :
      EntryCourse options cell exchanges (.error failure)

/--
The courses of all turns.  Either every cell takes a successful turn, or the cells before one do,
that one fails, and those behind it are left alone.
-/
inductive MatrixCourse
    (options : SortedTable)
    (cells : List (String × String × Item)) :
    Transcript ι → Except Failure (List RunEntry) → Prop
  | complete
      (turns : List (Turn ι))
      (whole : turns.map Turn.cell = cells) :
      MatrixCourse options cells (turns.flatMap (Turn.exchanges options))
        (.ok (turns.map Turn.entry))
  | stopped
      (turns : List (Turn ι))
      (cell : String × String × Item)
      (rest : List (String × String × Item))
      (split : turns.map Turn.cell ++ cell :: rest = cells)
      {exchanges : Transcript ι}
      {failure : Failure}
      (fails : FailedTurn options cell exchanges failure) :
      MatrixCourse options cells (turns.flatMap (Turn.exchanges options) ++ exchanges)
        (.error failure)

section

variable
  {options : SortedTable}
  {cell : String × String × Item}
  {cells : List (String × String × Item)}
  {exchanges : Transcript ι}

/-- A successful turn may come before a complete course. -/
theorem MatrixCourse.cons_complete
    {entries : List RunEntry}
    (turn : Turn ι)
    (course : MatrixCourse options cells exchanges (.ok entries)) :
    MatrixCourse options (turn.cell :: cells) (turn.exchanges options ++ exchanges)
      (.ok (turn.entry :: entries)) := by
  cases course with
  | complete turns whole =>
      exact .complete (turn :: turns) (by rw [List.map_cons, whole])

/-- A successful turn may come before a course that stops. -/
theorem MatrixCourse.cons_stopped
    {failure : Failure}
    (turn : Turn ι)
    (course : MatrixCourse options cells exchanges (.error failure)) :
    MatrixCourse options (turn.cell :: cells) (turn.exchanges options ++ exchanges)
      (.error failure) := by
  cases course with
  | stopped turns failing rest split fails =>
      rw [← List.append_assoc]
      exact .stopped (turn :: turns) failing rest
        (by rw [List.map_cons, List.cons_append, split]) fails

end

/-- One cell takes one of the courses of a turn. -/
theorem entry_follows
    (facilities : Facilities σ ι)
    (state : σ)
    (options : SortedTable)
    (cell : String × String × Item) :
    Follows facilities state (entry facilities options cell)
      (entry facilities.transcribed options cell) (EntryCourse options cell) := by
  obtain ⟨flavor, directory, item⟩ := cell
  unfold entry
  refine .resolveFunctor ?_
  rintro (fault | generator) resolved
  · exact .pure (.failed (.unresolved fault))
  refine .invokeFunctor ?_
  rintro (fault | script) answered
  · exact .pure (.failed (.refused generator fault))
  by_cases silent : script = ""
  · subst silent
    exact .pure (.failed (.silent generator))
  · simp only
    exact .pure (.printed ⟨(flavor, directory, item), generator, script, silent⟩ rfl)

/-- The cells take their turns one after the other, up to the first that fails. -/
theorem entries_follows
    (facilities : Facilities σ ι)
    (options : SortedTable)
    (cells : List (String × String × Item))
    (state : σ) :
    Follows facilities state (entries facilities options cells)
      (entries facilities.transcribed options cells) (MatrixCourse options cells) := by
  induction cells generalizing state with
  | nil =>
      exact .pure (.complete [] rfl)
  | cons cell rest inductionHypothesis =>
      refine (entry_follows facilities state options cell).bind ?_
      intro exchanges first course
      cases course with
      | failed fails =>
          refine .pure ?_
          rw [List.append_nil]
          exact .stopped [] cell rest rfl fails
      | printed turn same =>
          subst same
          refine (inductionHypothesis _).bind ?_
          rintro others (failure | entries) course
          · refine .pure ?_
            rw [List.append_nil]
            exact course.cons_stopped turn
          · refine .pure ?_
            rw [List.append_nil]
            exact course.cons_complete turn

/-- Both uses of a successful turn succeed. -/
theorem Turn.succeeds
    (options : SortedTable)
    (turn : Turn ι) :
    ∀ exchange ∈ turn.exchanges options, exchange.Succeeds := by
  intro exchange member
  rcases List.mem_pair.mp member with rfl | rfl
  · exact ⟨turn.generator, rfl⟩
  · exact ⟨turn.script, rfl, turn.isPrinted⟩

namespace MatrixCourse

variable
  {options : SortedTable}
  {cells : List (String × String × Item)}
  {transcript : Transcript ι}
  {result : Except Failure (List RunEntry)}

end MatrixCourse

end RunMatrix

end BenchmarkOrchestration
