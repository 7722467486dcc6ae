import BenchmarkOrchestration.CommandLine.Option
import BenchmarkOrchestration.Commands.Command

namespace BenchmarkOrchestration.CommandLine

/-!
# Reading the command line

Words are read from left to right.  A question for help or for the version is answered as soon as
it is met, and the first word that is wrong ends the reading.  An option may be given once before
the action and once after it; what stands after the action counts more.
-/

/-- The options that were found, with their values, in the order of the words. -/
abbrev Found := List (Switch × String)

/-- What the words up to the first that is no option say. -/
inductive Level where
  | found (options : Found) (rest : List String)
  | version
  | help
  | wrong
  deriving Repr, DecidableEq

/-- Whether a word can be the value of the option before it. -/
def isValueWord
    (word : String) :
    Bool :=
  word = "-" || word.toList.head? ≠ some '-'

/-- An option with its value, when it is new and the value fits. -/
def accepted
    (found : Found)
    (switch : Switch)
    (value : String) :
    Option Found :=
  if found.any (fun (other, _) => other = switch) || !switch.accepts value then none
  else some (found ++ [(switch, value)])

/-- The option of a word, and the value that is joined to it. -/
inductive Word where
  | version
  | help
  | given (switch : Switch) (joined : Option String)
  | plain
  | wrong
  deriving Repr, DecidableEq

namespace Word

/-- The reading of a word among some options. -/
def read
    (switches : List Switch)
    (word : String) :
    Word :=
  match word.toList with
  | '-' :: '-' :: chars =>
      let name := String.ofList (chars.takeWhile (· ≠ '='))
      let joined := (chars.drop name.length).tail?.map String.ofList
      match switches.find? fun switch => switch.name = name with
      | some switch =>
          if !switch.hasValue && joined.isSome then .wrong else .given switch joined
      | none =>
          if joined.isSome then .wrong
          else if name = "version" then .version
          else if name = "help" then .help
          else .wrong
  | '-' :: c :: chars =>
      match switches.find? fun switch => switch.letter? = some c with
      | some switch =>
          let value := if chars.head? = some '=' then chars.drop 1 else chars
          .given switch (if chars.isEmpty then none else some (String.ofList value))
      | none => if c = 'V' then .version else if c = 'h' then .help else .wrong
  | _ => .plain

end Word

/-- Read words up to the first that is no option; only the program itself has a version. -/
def readLevel
    (switches : List Switch)
    (hasVersion : Bool)
    (found : Found) :
    List String → Level
  | [] => .found found []
  | word :: rest =>
      match Word.read switches word with
      | .version => if hasVersion then .version else .wrong
      | .help => .help
      | .wrong => if word = "--" ∧ rest = [] then .found found [] else .wrong
      | .plain => .found found (word :: rest)
      | .given switch (some value) =>
          match accepted found switch value with
          | some found => readLevel switches hasVersion found rest
          | none => .wrong
      | .given switch none =>
          if switch.hasValue then
            match rest with
            | value :: rest =>
                match if isValueWord value then accepted found switch value else none with
                | some found => readLevel switches hasVersion found rest
                | none => .wrong
            | [] => .wrong
          else
            match accepted found switch "true" with
            | some found => readLevel switches hasVersion found rest
            | none => .wrong

/-- The variables of the environment that stand for options. -/
def variableOf? : Switch → Option String
  | .configuration => some "PIRA_CONFIG"
  | .dryRun => some "PIRA_DRY_RUN"
  | _ => none

/-- An action with the options that were given for it, the ones that count more first. -/
structure Request where
  action : Action
  options : Found
  deriving Repr, DecidableEq

namespace Request

/-- The value of an option. -/
def value?
    (request : Request)
    (switch : Switch) :
    Option String :=
  request.options.lookup switch

/-- Whether an option without a value is set. -/
def isSet
    (request : Request)
    (switch : Switch) :
    Bool :=
  request.value? switch = some "true"

/-- How documents are read. -/
def readingMode
    (request : Request) :
    ReadingMode :=
  ((request.value? .schema).bind fun word => schemaChoices.lookup word).getD .detect

/-- How often runs are repeated. -/
def repetitions
    (request : Request) :
    Nat :=
  ((request.value? .repetitions).bind count?).getD 1

/-- The iteration that is analyzed. -/
def iteration?
    (request : Request) :
    Option Nat :=
  (request.value? .iteration).bind count?

/-- Where experiments go unless another directory is given. -/
def defaultExperimentDirectory : String := "~/pira-extrap"

/-- The label of experiments unless another is given. -/
def defaultExperimentLabel : String := "t"

end Request

/-- What a command line asks for. -/
inductive Reading where
  | request (request : Request)
  | version
  | help
  | wrong
  deriving Repr, DecidableEq

namespace Reading

/-- The words that are true and false in a variable. -/
def truthWords : List String :=
  ["true", "false"]

/-- Whether the variables can be used where options are missing on one of the two levels. -/
def acceptsVariables
    (environment : List (String × String))
    (before after : Found) :
    Bool :=
  let isGiven := fun (found : Found) => found.any fun (switch, _) => switch = .dryRun
  match environment.lookup "PIRA_DRY_RUN" with
  | none => true
  | some word => truthWords.contains word || (isGiven before && isGiven after)

/-- The options that variables of the environment set. -/
def ofVariables
    (environment : List (String × String)) :
    Found :=
  Switch.common.filterMap fun switch => do
    let value ← environment.lookup (← variableOf? switch)
    return (switch, value)

/-- Read the words of a command line, with the environment for options that are not given. -/
def ofWords
    (environment : List (String × String))
    (words : List String) :
    Reading :=
  match readLevel Switch.common true [] words with
  | .version => .version
  | .help => .help
  | .wrong => .wrong
  | .found _ [] => .wrong
  | .found before (word :: rest) =>
      match Action.ofName? word with
      | none =>
          let isHelp := word = "help" ∧ rest.all fun name => (Action.ofName? name).isSome
          if isHelp then .help else .wrong
      | some action =>
          match readLevel (Switch.common ++ action.switches) false [] rest with
          | .version => .version
          | .help => .help
          | .wrong => .wrong
          | .found _ (_ :: _) => .wrong
          | .found after [] =>
              let options := after ++ before ++ ofVariables environment
              let isComplete := action.required.all fun switch =>
                options.any fun (other, _) => other = switch
              if isComplete && acceptsVariables environment before after then
                .request ⟨action, options⟩
              else
                .wrong

end Reading

end BenchmarkOrchestration.CommandLine
