import BenchmarkOrchestration.Interpreter.Tool.Call

namespace BenchmarkOrchestration.Interpreter

/-!
# Conditions

A condition compares texts and numbers or asks about files.  A condition of three or four words is
first read by their number; all others by the strength of their operators, where a word that could
be an operator is an operand when no operand follows it.
-/

namespace Tool

namespace Condition

/-- The integer of an operand, which blanks may surround. -/
def integer
    (text : Octets) :
    Except String Int :=
  let isBlank := fun (c : Char) => c = ' ' || c = '\t' || c = '\n'
  let trimmed := ((text.dropWhile isBlank).reverse.dropWhile isBlank).reverse
  match Octets.int? trimmed with
  | some value => .ok value
  | none => .error s!"Illegal number: {Octets.toText text}"

/--
The test that an operator makes of one operand.  There are no links, pipes, sockets, terminals or
special bits, so that tests for them fail.
-/
def single?
    (call : ToolCall)
    (operator operand : Octets) :
    Option Bool :=
  let path := Octets.toText operand
  let found := call.tree.find call.here path
  match operator with
  | ['-', 'n'] => some !operand.isEmpty
  | ['-', 'z'] => some operand.isEmpty
  | ['-', 'e'] => some found.toOption.isSome
  | ['-', 'f'] => some (call.tree.isFile call.here path)
  | ['-', 'd'] => some (call.tree.isDirectory call.here path)
  | ['-', 'r'] => some found.toOption.isSome
  | ['-', 'w'] => some found.toOption.isSome
  | ['-', 'x'] =>
      match found with
      | .ok (_, .file _ isExecutable) => some isExecutable
      | .ok (_, .directory) => some true
      | _ => some false
  | ['-', 's'] =>
      match found with
      | .ok (_, .file content _) => some (content.size ≠ 0)
      | .ok (_, .directory) => some true
      | _ => some false
  | ['-', 'O'] => some found.toOption.isSome
  | ['-', 'G'] => some found.toOption.isSome
  | ['-', 'c'] =>
      match found with
      | .ok (_, .sink) => some true
      | _ => some false
  | _ => none

/-- The comparison that an operator makes of two operands. -/
def double?
    (call : ToolCall)
    (first operator second : Octets) :
    Option (Except String Bool) :=
  let numeric := fun (compare : Int → Int → Bool) =>
    some do return compare (← integer first) (← integer second)
  let place := fun (path : Octets) => (call.tree.find call.here (Octets.toText path)).toOption
  match operator with
  | ['='] => some (.ok (first = second))
  | ['!', '='] => some (.ok (first ≠ second))
  | ['<'] => some (.ok (String.ofList first < String.ofList second))
  | ['>'] => some (.ok (String.ofList second < String.ofList first))
  | ['-', 'e', 'q'] => numeric fun x y => x = y
  | ['-', 'n', 'e'] => numeric fun x y => x ≠ y
  | ['-', 'l', 't'] => numeric fun x y => x < y
  | ['-', 'l', 'e'] => numeric fun x y => x ≤ y
  | ['-', 'g', 't'] => numeric fun x y => y < x
  | ['-', 'g', 'e'] => numeric fun x y => y ≤ x
  | ['-', 'n', 't'] => some (.ok false)
  | ['-', 'o', 't'] => some (.ok false)
  | ['-', 'e', 'f'] =>
      some (.ok ((place first).isSome && (place first).map Prod.fst = (place second).map Prod.fst))
  | _ => none

/-- What a word stands for in a condition. -/
inductive Token where
  | finish
  | operand
  | single
  | double
  | negation
  | conjunction
  | disjunction
  | opening
  | closing
  deriving Repr, DecidableEq

/-- What a word stands for by itself. -/
def tokenOf : Octets → Token
  | ['!'] => .negation
  | ['('] => .opening
  | [')'] => .closing
  | ['-', 'a'] => .conjunction
  | ['-', 'o'] => .disjunction
  | ['-', c] => if "rwxefdcbpugkstznhOGLS".toList.contains c then .single else .operand
  | word =>
      if ["=", "!=", "<", ">", "-eq", "-ne", "-lt", "-le", "-gt", "-ge", "-nt", "-ot",
          "-ef"].contains (Octets.toText word) then
        .double
      else
        .operand

/-- What the first of some words stands for before the others. -/
def token : List Octets → Token
  | [] => .finish
  | word :: rest =>
      match tokenOf word, rest with
      | .single, [] => .operand
      | .single, [_] => .single
      | .single, next :: _ => if tokenOf next = .double then .operand else .single
      | .opening, [] => .operand
      | found, _ => found

/-- The truth of a part, and the words from the last one that belongs to it. -/
abbrev Answer := Except String (Bool × List Octets)

mutual

/-- Parts of which one must hold. -/
def either : (fuel : Nat) → ToolCall → Token → List Octets → Answer
  | 0, _, _, _ => .error "argument expected"
  | fuel + 1, call, first, words => do
      let (holds, words) ← both fuel call first words
      match token (words.drop 1) with
      | .disjunction =>
          let words := words.drop 2
          let (other, words) ← either fuel call (token words) words
          return (holds || other, words)
      | _ => return (holds, words)

/-- Parts that must all hold. -/
def both : (fuel : Nat) → ToolCall → Token → List Octets → Answer
  | 0, _, _, _ => .error "argument expected"
  | fuel + 1, call, first, words => do
      let (holds, words) ← negation fuel call first words
      match token (words.drop 1) with
      | .conjunction =>
          let words := words.drop 2
          let (other, words) ← both fuel call (token words) words
          return (holds && other, words)
      | _ => return (holds, words)

/-- A part that must not hold, or one that must. -/
def negation : (fuel : Nat) → ToolCall → Token → List Octets → Answer
  | 0, _, _, _ => .error "argument expected"
  | fuel + 1, call, .negation, words => do
      let next := token (words.drop 1)
      let (holds, words) ←
        negation fuel call next (if next = .finish then words else words.drop 1)
      return (!holds, words)
  | fuel + 1, call, first, words => primary fuel call first words

/-- A comparison, a test of one operand, or a text that must not be empty. -/
def primary : (fuel : Nat) → ToolCall → Token → List Octets → Answer
  | 0, _, _, _ => .error "argument expected"
  | _ + 1, _, .finish, words => .ok (false, words)
  | fuel + 1, call, .opening, words => do
      let inner := words.drop 1
      if token inner = .closing then
        return (false, inner)
      else
        let (holds, words) ← either fuel call (token inner) inner
        match token (words.drop 1) with
        | .closing => return (holds, words.drop 1)
        | _ => throw "closing paren expected"
  | _ + 1, call, .single, words =>
      match words with
      | operator :: operand :: rest =>
          .ok ((single? call operator operand).getD false, operand :: rest)
      | words => .error s!"{Octets.toText (words.headD [])}: argument expected"
  | _ + 1, call, _, words =>
      match words with
      | first :: operator :: rest =>
          if token (operator :: rest) = .double then
            match rest with
            | second :: others => do
                let holds ← (double? call first operator second).getD (.ok false)
                return (holds, second :: others)
            | [] => .error s!"{Octets.toText operator}: argument expected"
          else
            .ok (!first.isEmpty, words)
      | words => .ok (!(words.headD []).isEmpty, words)

end

/-- Whether words are a condition that holds, when the first one stands for a token. -/
def evaluateFrom
    (call : ToolCall)
    (first : Token)
    (words : List Octets) :
    Except String Bool := do
  let (holds, rest) ← either (4 * words.length + 8) call first words
  match rest with
  | last :: _ :: _ => throw s!"{Octets.toText last}: unexpected operator"
  | _ => return holds

/-- Whether a condition holds. -/
def evaluate
    (call : ToolCall) :
    List Octets → Except String Bool
  | [] => .ok false
  | first :: rest =>
      let isCounted := rest.length = 2 || rest.length = 3
      if rest.length = 2 && (rest.head?.map tokenOf) = some .double then
        evaluateFrom call .operand (first :: rest)
      else if isCounted && first = ['('] && rest.getLast? = some [')'] then
        evaluateFrom call (token rest.dropLast) rest.dropLast
      else if isCounted && first = ['!'] then
        (evaluate call rest).map (!·)
      else
        evaluateFrom call (token (first :: rest)) (first :: rest)

end Condition

/-- Succeed if a condition holds. -/
def test
    (call : ToolCall) :
    ToolResult :=
  let words :=
    if call.name = ['['] then
      if call.arguments.getLast? = some [']'] then some call.arguments.dropLast else none
    else
      some call.arguments
  match words with
  | none => call.complains 2 "missing ]"
  | some words =>
      match Condition.evaluate call words with
      | .ok holds => call.exits (if holds then 0 else 1)
      | .error text => call.complains 2 text

end Tool

end BenchmarkOrchestration.Interpreter
