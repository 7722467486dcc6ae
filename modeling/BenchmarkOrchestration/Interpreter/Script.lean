import BenchmarkOrchestration.Text.Octets

namespace BenchmarkOrchestration.Interpreter

/-!
# Scripts

A script is a list of sentences.  A sentence joins pipelines by success or failure, a pipeline
joins commands, and a command is made of words.  Words keep their parts apart until the command
runs, since parameters and the output of other scripts are put in only then.
-/

mutual

/-- A part of a word; what stands in quotes is neither split nor read as a pattern. -/
inductive Part where
  | literal (text : Octets) (isQuoted : Bool)
  | parameter (name : Octets) (use : ParameterUse) (isQuoted : Bool)
  | output (script : List Sentence) (isQuoted : Bool)
  | arithmetic (expression : List Part) (isQuoted : Bool)

/-- What is taken from a parameter; a use that does not exist fails when it is needed. -/
inductive ParameterUse where
  | meaningless
  | value
  | length
  | otherwise (action : Fallback) (alsoEmpty : Bool) (word : List Part)
  | cut (atStart longest : Bool) (pattern : List Part)

/-- What happens with the word behind a parameter that is not set, or is set. -/
inductive Fallback where
  | useWord
  | assignWord
  | fail
  | replaceSet

/-- A change of one of the streams of a command. -/
inductive Redirection where
  | file (descriptor : Nat) (mode : FileMode) (path : List Part)
  | copy (descriptor : Nat) (source : List Part)
  | text (descriptor : Nat) (content : List Part)

/-- How a redirection opens a file. -/
inductive FileMode where
  | reading
  | writing
  | appending
  | readingWriting

/-- A command, simple or compound. -/
inductive Node where
  | simple (line : Nat) (assignments : List (Octets × List Part)) (words : List (List Part))
      (redirections : List Redirection)
  | group (body : List Sentence) (redirections : List Redirection)
  | subshell (body : List Sentence) (redirections : List Redirection)
  | branches (arms : List (List Sentence × List Sentence)) (otherwise : List Sentence)
      (redirections : List Redirection)
  | loop (whileTrue : Bool) (condition body : List Sentence) (redirections : List Redirection)
  | each (name : Octets) (words : Option (List (List Part))) (body : List Sentence)
      (redirections : List Redirection)
  | select (subject : List Part) (arms : List (List (List Part) × List Sentence))
      (redirections : List Redirection)
  | define (name : Octets) (body : Node)

/-- Commands joined by pipes; a negated pipeline turns success and failure around. -/
inductive Pipeline where
  | mk (isNegated : Bool) (commands : List Node)

/-- Pipelines that are run one after the other, each joined to those before it. -/
inductive Sentence where
  | mk (first : Pipeline) (others : List (Joint × Pipeline)) (isBackground : Bool)

/-- When a pipeline runs that is joined to another. -/
inductive Joint where
  | afterSuccess
  | afterFailure

end

end BenchmarkOrchestration.Interpreter
