import BenchmarkOrchestration.Orchestration.Analysis
import BenchmarkOrchestration.Proofs.Orchestration.Transcript

namespace BenchmarkOrchestration

/-!
# Courses of analyses

An analysis ends at one of a few places: it may not find its item or its functor, leave an active
functor alone, or get from a functor, from its arguments or from a command what ends it.  Every
course lists the exchanges up to this place together with the result.
-/

namespace Analysis

/-- Looking up the analysis functor of an item. -/
def analyzerExchange
    (item : Item)
    (flavor : String)
    (answer : Except FunctorFault (ResolvedFunctor ι)) :
    Exchange ι :=
  .resolved item.functors.analyze (.plain .analyze item.benchmark flavor) answer

/-- Letting the functor analyze, or asking it for its command. -/
def functorExchange
    (item : Item)
    (mode : InvocationMode)
    (functor : ResolvedFunctor ι)
    (answer : Except FunctorFault String) :
    Exchange ι :=
  .invoked functor.handle mode (.plain item.benchmark item.analyzerDirectory) answer

/-- The text of the analysis command: what the functor gave, and the files behind it. -/
def commandText
    (base : String)
    (arguments : List String) :
    String :=
  " ".intercalate (base :: arguments)

/-- Handing over the analysis command in the analyzer directory. -/
def commandExchange
    (isDry : Bool)
    (item : Item)
    (text : String)
    (answer : Except CommandFault CommandOutput) :
    Exchange ι :=
  .commanded (.inDirectory text item.analyzerDirectory isDry) answer

/-- The courses of the analysis of an item that was found. -/
inductive ItemCourse
    (isDry : Bool)
    (item : Item)
    (flavor : String)
    (phase : Phase) :
    Transcript ι → Except Failure AnalysisOutcome → Prop
  | unresolved
      (fault : FunctorFault) :
      ItemCourse isDry item flavor phase
        [analyzerExchange item flavor (.error fault)]
        (.error (.functor fault))
  | skipped
      (functor : ResolvedFunctor ι)
      (isActive : functor.isActive = true)
      (dry : isDry = true) :
      ItemCourse isDry item flavor phase
        [analyzerExchange item flavor (.ok functor)]
        (.ok (.delegated ""))
  | refused
      (functor : ResolvedFunctor ι)
      (isActive : functor.isActive = true)
      (real : isDry = false)
      (fault : FunctorFault) :
      ItemCourse isDry item flavor phase
        [ analyzerExchange item flavor (.ok functor),
          functorExchange item .active functor (.error fault) ]
        (.error (.functor fault))
  | delegated
      (functor : ResolvedFunctor ι)
      (isActive : functor.isActive = true)
      (real : isDry = false)
      (output : String) :
      ItemCourse isDry item flavor phase
        [ analyzerExchange item flavor (.ok functor),
          functorExchange item .active functor (.ok output) ]
        (.ok (.delegated output))
  | textRefused
      (functor : ResolvedFunctor ι)
      (isPassive : functor.isActive = false)
      (fault : FunctorFault) :
      ItemCourse isDry item flavor phase
        [ analyzerExchange item flavor (.ok functor),
          functorExchange item .passive functor (.error fault) ]
        (.error (.functor fault))
  | argumentsRefused
      (functor : ResolvedFunctor ι)
      (isPassive : functor.isActive = false)
      (base : String)
      (fault : DocumentFault)
      (invalid : fileArguments item flavor phase = .error fault) :
      ItemCourse isDry item flavor phase
        [ analyzerExchange item flavor (.ok functor),
          functorExchange item .passive functor (.ok base) ]
        (.error (.document fault))
  | commandFailed
      (functor : ResolvedFunctor ι)
      (isPassive : functor.isActive = false)
      (base : String)
      (arguments : List String)
      (valid : fileArguments item flavor phase = .ok arguments)
      (fault : CommandFault) :
      ItemCourse isDry item flavor phase
        [ analyzerExchange item flavor (.ok functor),
          functorExchange item .passive functor (.ok base),
          commandExchange isDry item (commandText base arguments) (.error fault) ]
        (.error (.command fault))
  | commanded
      (functor : ResolvedFunctor ι)
      (isPassive : functor.isActive = false)
      (base : String)
      (arguments : List String)
      (valid : fileArguments item flavor phase = .ok arguments)
      (output : CommandOutput) :
      ItemCourse isDry item flavor phase
        [ analyzerExchange item flavor (.ok functor),
          functorExchange item .passive functor (.ok base),
          commandExchange isDry item (commandText base arguments) (.ok output) ]
        (.ok (.commanded (commandText base arguments) output.stdout))

/-- A course without a command ends earlier; with one it has come through all of its stages. -/
theorem ItemCourse.commands_eq_nil_or
    {isDry : Bool}
    {item : Item}
    {flavor : String}
    {phase : Phase}
    {exchanges : Transcript ι}
    {result : Except Failure AnalysisOutcome}
    (course : ItemCourse isDry item flavor phase exchanges result) :
    exchanges.commands = [] ∨
      ∃ functor base arguments answer,
        functor.isActive = false ∧
          fileArguments item flavor phase = .ok arguments ∧
          exchanges =
            [ analyzerExchange item flavor (.ok functor),
              functorExchange item .passive functor (.ok base),
              commandExchange isDry item (commandText base arguments) answer ] := by
  cases course with
  | unresolved fault => exact .inl rfl
  | skipped functor isActive dry => exact .inl rfl
  | refused functor isActive real fault => exact .inl rfl
  | delegated functor isActive real output => exact .inl rfl
  | textRefused functor isPassive fault => exact .inl rfl
  | argumentsRefused functor isPassive base fault invalid => exact .inl rfl
  | commandFailed functor isPassive base arguments valid fault =>
      exact .inr ⟨functor, base, arguments, .error fault, isPassive, valid, rfl⟩
  | commanded functor isPassive base arguments valid output =>
      exact .inr ⟨functor, base, arguments, .ok output, isPassive, valid, rfl⟩

/-- The analysis of an item takes one of its courses. -/
theorem runItem_follows
    (facilities : Facilities σ ι)
    (state : σ)
    (isDry : Bool)
    (item : Item)
    (flavor : String)
    (phase : Phase) :
    Follows facilities state (runItem facilities isDry item flavor phase)
      (runItem facilities.transcribed isDry item flavor phase)
      (ItemCourse isDry item flavor phase) := by
  unfold runItem
  refine .resolveFunctor ?_
  rintro (fault | functor) answered
  · exact .pure (.unresolved fault)
  dsimp only
  cases isActive : functor.isActive with
  | true =>
      cases isDry with
      | true =>
          exact .pure (.skipped functor isActive rfl)
      | false =>
          refine .invokeFunctor ?_
          rintro (fault | output) invoked
          · exact .pure (.refused functor isActive rfl fault)
          · exact .pure (.delegated functor isActive rfl output)
  | false =>
      refine .invokeFunctor ?_
      rintro (fault | base) asked
      · exact .pure (.textRefused functor isActive fault)
      dsimp only
      cases files : fileArguments item flavor phase with
      | error fault =>
          exact .pure (.argumentsRefused functor isActive base fault files)
      | ok arguments =>
          unfold runCommand
          refine .runCommand ?_
          rintro (fault | output) handed
          · exact .pure (.commandFailed functor isActive base arguments files fault)
          · exact .pure (.commanded functor isActive base arguments files output)

end Analysis

namespace Configuration

/-- The courses of the analysis of a target. -/
inductive AnalysisCourse
    (config : Configuration)
    (isDry : Bool)
    (target : Target)
    (phase : Phase) :
    Transcript ι → Except Failure AnalysisOutcome → Prop
  | unknown
      (fault : LookupFault)
      (missing : config.item target.build target.item = .error fault) :
      AnalysisCourse config isDry target phase [] (.error (.lookup fault))
  | found
      (item : Item)
      (known : config.item target.build target.item = .ok item)
      {exchanges : Transcript ι}
      {result : Except Failure AnalysisOutcome}
      (course : Analysis.ItemCourse isDry item target.flavor phase exchanges result) :
      AnalysisCourse config isDry target phase exchanges result

/-- The analysis of a target takes one of its courses. -/
theorem analyze_follows
    (config : Configuration)
    (facilities : Facilities σ ι)
    (state : σ)
    (isDry : Bool)
    (target : Target)
    (phase : Phase) :
    Follows facilities state (config.analyze facilities isDry target phase)
      (config.analyze facilities.transcribed isDry target phase)
      (AnalysisCourse config isDry target phase) := by
  unfold analyze
  cases known : config.item target.build target.item with
  | error fault =>
      exact .pure (.unknown fault known)
  | ok item =>
      refine (Analysis.runItem_follows facilities state isDry item target.flavor phase).mono ?_
      intro exchanges result course
      exact .found item known course

end Configuration

end BenchmarkOrchestration
