import BenchmarkOrchestration.Orchestration.Failure
import BenchmarkOrchestration.Text.Affix

namespace BenchmarkOrchestration.CommandLine

/-!
# Reports of failures

A failure is reported by one text and the texts of its causes, each the cause of the one before.
Several causes are numbered, and further lines of a cause are indented like its first.
-/

/-- A failure with its causes, the nearest first. -/
structure Report where
  text : String
  causes : List String
  deriving Repr, DecidableEq

namespace Report

/-- A report without causes. -/
def plain
    (text : String) :
    Report :=
  ⟨text, []⟩

/-- A failure is reported with its kind; the message alone is the cause of that. -/
def ofFailure
    (failure : Failure) :
    Report :=
  ⟨failure.message, [failure.cause]⟩

/-- The report of what failed because of another report. -/
def inContext
    (report : Report)
    (text : String) :
    Report :=
  ⟨text, report.text :: report.causes⟩

/-- A cause behind its number or blanks, with its further lines indented. -/
def causeText
    (number : Option Nat)
    (cause : String) :
    String :=
  let (start, indentation) :=
    match number with
    | some number =>
        let digits := toString number
        (String.ofList (List.replicate (5 - digits.length) ' ') ++ digits ++ ": ", "       ")
    | none => ("    ", "    ")
  start ++ ("\n" ++ indentation).intercalate (splitText '\n' cause)

/-- The whole text of a report. -/
def render
    (report : Report) :
    String :=
  let causes :=
    match report.causes with
    | [] => []
    | [only] => [causeText none only]
    | several => several.zipIdx.map fun (cause, number) => causeText (some number) cause
  let listed := if causes.isEmpty then [] else "" :: "Caused by:" :: causes
  "\n".intercalate (("Error: " ++ report.text) :: listed) ++ "\n"

end Report

end BenchmarkOrchestration.CommandLine
