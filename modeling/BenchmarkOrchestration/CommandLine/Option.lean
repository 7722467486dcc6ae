import BenchmarkOrchestration.Document.Reader
import BenchmarkOrchestration.Text.Affix

namespace BenchmarkOrchestration.CommandLine

/-!
# Options and actions

The first word that is no option names an action.  Common options may stand before or after it, the
options of the action only after it.  Some options carry a value, which may be checked.
-/

/-- An option by what it sets. -/
inductive Switch where
  | configuration
  | schema
  | dryRun
  | repetitions
  | runtimeFilter
  | experimentDirectory
  | experimentLabel
  | asJson
  | build
  | item
  | uninstrumented
  | iteration
  deriving Repr, DecidableEq

namespace Switch

/-- The name of an option behind two dashes. -/
def name : Switch → String
  | .configuration => "config"
  | .schema => "schema"
  | .dryRun => "dry-run"
  | .repetitions => "repetitions"
  | .runtimeFilter => "runtime-filter"
  | .experimentDirectory => "extrap-dir"
  | .experimentLabel => "extrap-prefix"
  | .asJson => "json"
  | .build => "build"
  | .item => "item"
  | .uninstrumented => "no-instr"
  | .iteration => "iteration"

/-- The letter of an option behind one dash. -/
def letter? : Switch → Option Char
  | .build => some 'b'
  | .item => some 'i'
  | _ => none

/-- Whether an option carries a value. -/
def hasValue : Switch → Bool
  | .dryRun => false
  | .runtimeFilter => false
  | .asJson => false
  | .uninstrumented => false
  | _ => true

/-- The options that every action takes. -/
def common : List Switch :=
  [.configuration, .schema, .dryRun, .repetitions, .runtimeFilter, .experimentDirectory,
    .experimentLabel]

end Switch

/-- The schemas by the words of the option. -/
def schemaChoices : List (String × ReadingMode) :=
  [("auto", .detect), ("legacy", .fixed .legacy), ("simplified", .fixed .simplified)]

/-- The first number that is too large for a count. -/
def countBound : Nat := Nat.pow 2 32

/-- The count that digits write, with an optional sign; only zero may have a minus sign. -/
def count?
    (text : String) :
    Option Nat :=
  let (isNegative, digits) :=
    match text.toList with
    | '-' :: digits => (true, digits)
    | '+' :: digits => (false, digits)
    | digits => (false, digits)
  if digits.isEmpty ∨ !digits.all Char.isDigit then
    none
  else
    let value := digits.foldl (fun value c => value * 10 + (c.toNat - '0'.toNat)) 0
    if value < countBound ∧ (!isNegative ∨ value = 0) then some value else none

/-- Whether an option can carry a value. -/
def Switch.accepts
    (switch : Switch)
    (value : String) :
    Bool :=
  match switch with
  | .schema => (schemaChoices.lookup value).isSome
  | .repetitions => (count? value).isSome
  | .iteration => (count? value).isSome
  | _ => true

/-- What the program is asked to do. -/
inductive Action where
  | describe
  | arguments
  | build
  | runs
  | analyze
  deriving Repr, DecidableEq

namespace Action

/-- The word for an action. -/
def name : Action → String
  | .describe => "describe"
  | .arguments => "args"
  | .build => "build"
  | .runs => "runs"
  | .analyze => "analyze"

/-- All actions. -/
def all : List Action :=
  [.describe, .arguments, .build, .runs, .analyze]

/-- The action with a name. -/
def ofName?
    (name : String) :
    Option Action :=
  all.find? fun action => action.name = name

/-- The options that an action takes beside the common ones. -/
def switches : Action → List Switch
  | .describe => [.asJson]
  | .arguments => [.build, .item]
  | .build => [.uninstrumented]
  | .runs => []
  | .analyze => [.iteration]

/-- The options without which an action cannot be done. -/
def required : Action → List Switch
  | .arguments => [.build, .item]
  | _ => []

end Action

end BenchmarkOrchestration.CommandLine
