import BenchmarkOrchestration.Interpreter.Tool.Call
import BenchmarkOrchestration.Number.Decimal

namespace BenchmarkOrchestration.Interpreter

/-!
# Printing

Two tools print their arguments: one as they are, apart from escapes, and one in the form that its
first argument prescribes.  The form is used again as long as arguments are left.
-/

namespace Tool

/-- The number of an octal digit. -/
def octalDigit?
    (c : Char) :
    Option Nat :=
  if '0' ≤ c ∧ c ≤ '7' then some (c.toNat - '0'.toNat) else none

/-- The character of at most a number of octal digits, and the text after them. -/
def octal :
    (most : Nat) → (value : Nat) → List Char → Char × List Char
  | most + 1, value, c :: rest =>
      match octalDigit? c with
      | some digit => octal most (value * 8 + digit) rest
      | none => (Char.ofNat (value % 256), c :: rest)
  | _, value, rest => (Char.ofNat (value % 256), rest)

/-- The character behind a backslash, and the text after it; nothing if it is no escape. -/
def escape? : List Char → Option (Char × List Char)
  | 'a' :: rest => some ('\x07', rest)
  | 'b' :: rest => some ('\x08', rest)
  | 'e' :: rest => some ('\x1b', rest)
  | 'f' :: rest => some ('\x0c', rest)
  | 'n' :: rest => some ('\n', rest)
  | 'r' :: rest => some ('\r', rest)
  | 't' :: rest => some ('\t', rest)
  | 'v' :: rest => some ('\x0b', rest)
  | '\\' :: rest => some ('\\', rest)
  | c :: rest =>
      match octalDigit? c with
      | some _ => some (octal 3 0 (c :: rest))
      | none => none
  | [] => none

/-- A text with its escapes replaced, and whether an escape ended it early. -/
def unescaped :
    (fuel : Nat) → List Char → Octets × Bool
  | 0, text => (text, false)
  | _ + 1, [] => ([], false)
  | _ + 1, '\\' :: 'c' :: _ => ([], true)
  | fuel + 1, '\\' :: text =>
      let digits :=
        match text with
        | '0' :: d :: rest => if (octalDigit? d).isSome then d :: rest else text
        | _ => text
      match escape? digits with
      | some (c, rest) =>
          let (others, isCut) := unescaped fuel rest
          (c :: others, isCut)
      | none =>
          let (others, isCut) := unescaped fuel text
          ('\\' :: others, isCut)
  | fuel + 1, c :: rest =>
      let (others, isCut) := unescaped fuel rest
      (c :: others, isCut)

/-- Print the arguments on one line; without the line end if the first one says so. -/
def echo
    (call : ToolCall) :
    ToolResult :=
  let (words, ending) :=
    match call.arguments with
    | ['-', 'n'] :: words => (words, [])
    | words => (words, ['\n'])
  let text := Octets.join [' '] words
  let (text, isCut) := unescaped (text.length + 1) text
  call.prints (if isCut then text else text ++ ending)

/-- A form of one argument: flags, least width, precision and kind. -/
structure Directive where
  flags : List Char
  width : Nat
  precision : Option Nat
  kind : Char

namespace Directive

/-- A text brought to the least width. -/
def pad
    (directive : Directive)
    (canBeZeros : Bool)
    (text : Octets) :
    Octets :=
  let missing := directive.width - text.length
  if directive.flags.contains '-' then
    text ++ List.replicate missing ' '
  else if canBeZeros ∧ directive.flags.contains '0' then
    match text with
    | '-' :: digits => '-' :: List.replicate missing '0' ++ digits
    | digits => List.replicate missing '0' ++ digits
  else
    List.replicate missing ' ' ++ text

/-- A number in the base of the kind. -/
def number
    (directive : Directive)
    (value : Int) :
    Octets :=
  let word := (value % (Nat.pow 2 64 : Nat)).toNat
  let digits :=
    match directive.kind with
    | 'x' => Nat.toDigits 16 word
    | 'X' => (Nat.toDigits 16 word).map Char.toUpper
    | 'o' => Nat.toDigits 8 word
    | 'u' => Nat.toDigits 10 word
    | _ => Nat.toDigits 10 value.natAbs
  let digits :=
    if directive.flags.contains '#' ∧ word ≠ 0 then
      match directive.kind with
      | 'x' => '0' :: 'x' :: digits
      | 'X' => '0' :: 'X' :: digits
      | 'o' => '0' :: digits
      | _ => digits
    else
      digits
  let least := directive.precision.getD 1
  let digits := List.replicate (least - digits.length) '0' ++ digits
  let isSigned := directive.kind = 'd' || directive.kind = 'i'
  let sign :=
    if isSigned ∧ value < 0 then ['-']
    else if isSigned ∧ directive.flags.contains '+' then ['+']
    else if isSigned ∧ directive.flags.contains ' ' then [' ']
    else []
  directive.pad directive.precision.isNone (sign ++ digits)

end Directive

/-- The number that an argument writes, and what is wrong with it. -/
def argumentNumber
    (argument : Octets) :
    Int × Option String :=
  match argument with
  | '"' :: c :: _ => (c.toNat, none)
  | '\'' :: c :: _ => (c.toNat, none)
  | _ =>
      let text := argument.dropWhile fun c => c = ' ' || c = '\t'
      let (sign, digits) : Int × List Char :=
        match text with
        | '-' :: digits => (-1, digits)
        | '+' :: digits => (1, digits)
        | digits => (1, digits)
      let (base, digits) :=
        match digits with
        | '0' :: 'x' :: hex => (16, hex)
        | '0' :: 'X' :: hex => (16, hex)
        | '0' :: octal => (8, '0' :: octal)
        | digits => (10, digits)
      let digitOf := fun (c : Char) =>
        let c := c.toLower
        if c.isDigit then c.toNat - '0'.toNat
        else if 'a' ≤ c ∧ c ≤ 'f' then c.toNat - 'a'.toNat + 10
        else 99
      let used := digits.takeWhile fun c => digitOf c < base
      let value : Nat := used.foldl (fun total c => total * base + digitOf c) 0
      let shown := Octets.toText argument
      if argument.isEmpty then (0, none)
      else if used.isEmpty then (0, some s!"{shown}: expected numeric value")
      else if used.length < digits.length then
        (sign * value, some s!"{shown}: not completely converted")
      else (sign * value, none)

/-- The number with a fraction that an argument writes, and what is wrong with it. -/
def argumentFraction
    (argument : Octets) :
    Binary64 × Option String :=
  let isNegative := argument.head? = some '-'
  let digits := argument.drop (if isNegative ∨ argument.head? = some '+' then 1 else 0)
  let whole := digits.takeWhile Char.isDigit
  let (fraction, rest) :=
    match digits.drop whole.length with
    | '.' :: after => (after.takeWhile Char.isDigit, after.dropWhile Char.isDigit)
    | rest => ([], rest)
  let value := (Octets.nat? (whole ++ fraction)).getD 0
  let magnitude := (Binary64.ofDecimal? value (-(fraction.length : Int))).getD ⟨0⟩
  let number := magnitude.withSign isNegative
  let shown := Octets.toText argument
  if argument.isEmpty then (⟨0⟩, none)
  else if whole.isEmpty ∧ fraction.isEmpty then (⟨0⟩, some s!"{shown}: expected numeric value")
  else if !rest.isEmpty then (number, some s!"{shown}: not completely converted")
  else (number, none)

/-- What has been printed in a form: the text, the arguments left, and what went wrong. -/
structure Formatted where
  text : Octets
  rest : List Octets
  problems : List String
  isCut : Bool
  isBroken : Bool

/-- The flags, width, precision and kind that follow a percent sign, and the text after them. -/
def directive?
    (form : List Char)
    (arguments : List Octets) :
    Option (Directive × List Char × List Octets) :=
  let flags := form.takeWhile fun c => c ∈ ['-', '+', ' ', '#', '0']
  let form := form.drop flags.length
  let size := fun (form : List Char) (arguments : List Octets) =>
    match form with
    | '*' :: form =>
        ((argumentNumber (arguments.headD [])).1.toNat, form, arguments.drop 1)
    | form =>
        let digits := form.takeWhile Char.isDigit
        ((Octets.nat? digits).getD 0, form.drop digits.length, arguments)
  let (width, form, arguments) := size form arguments
  let (precision, form, arguments) :=
    match form with
    | '.' :: form =>
        let (precision, form, arguments) := size form arguments
        (some precision, form, arguments)
    | form => (none, form, arguments)
  match form with
  | kind :: form => some (⟨flags, width, precision, kind⟩, form, arguments)
  | [] => none

/-- Print arguments once in a form. -/
def formatOnce :
    (fuel : Nat) → (form : List Char) → List Octets → Formatted
  | 0, _, arguments => ⟨[], arguments, [], false, false⟩
  | _ + 1, [], arguments => ⟨[], arguments, [], false, false⟩
  | fuel + 1, '%' :: '%' :: form, arguments =>
      let later := formatOnce fuel form arguments
      { later with text := '%' :: later.text }
  | fuel + 1, '%' :: form, arguments =>
      match directive? form arguments with
      | none => ⟨[], arguments, ["missing format character"], true, true⟩
      | some (directive, form, arguments) =>
          let argument := arguments.headD []
          let resume := fun (text : Octets) (problem : Option String) =>
            let later := formatOnce fuel form (arguments.drop 1)
            { later with
              text := text ++ later.text
              problems := problem.toList ++ later.problems }
          let limited := fun (text : Octets) =>
            (directive.precision.map fun n => text.take n).getD text
          match directive.kind with
          | 's' => resume (directive.pad false (limited argument)) none
          | 'c' => resume (directive.pad false (argument.take 1)) none
          | 'b' =>
              let (text, isCut) := unescaped (argument.length + 1) argument
              let text := directive.pad false (limited text)
              if isCut then ⟨text, [], [], true, false⟩ else resume text none
          | 'f' =>
              let (value, problem) := argumentFraction argument
              let places := directive.precision.getD 6
              let text := (value.fixedText places).toList
              resume (directive.pad true (if places = 0 then text.dropLast else text)) problem
          | kind =>
              if kind ∈ ['d', 'i', 'u', 'x', 'X', 'o'] then
                let (value, problem) := argumentNumber argument
                resume (directive.number value) problem
              else
                ⟨[], arguments, ["%" ++ String.ofList [kind] ++ ": invalid directive"], true, true⟩
  | fuel + 1, '\\' :: form, arguments =>
      match escape? form with
      | some (c, form) =>
          let later := formatOnce fuel form arguments
          { later with text := c :: later.text }
      | none =>
          let later := formatOnce fuel form arguments
          { later with text := '\\' :: later.text }
  | fuel + 1, c :: form, arguments =>
      let later := formatOnce fuel form arguments
      { later with text := c :: later.text }

/-- Print all arguments in a form, again and again as long as it takes any of them. -/
def formatAll
    (form : List Char) :
    (fuel : Nat) → List Octets → Formatted
  | 0, arguments => ⟨[], arguments, [], false, false⟩
  | fuel + 1, arguments =>
      let first := formatOnce (form.length + 1) form arguments
      if first.isCut ∨ first.rest.isEmpty ∨ first.rest.length = arguments.length then
        first
      else
        let others := formatAll form fuel first.rest
        { others with
          text := first.text ++ others.text
          problems := first.problems ++ others.problems }

/-- Print arguments in a form. -/
def printForm
    (call : ToolCall) :
    List Octets → ToolResult
  | [] => call.complains 2 "usage: printf format [arg ...]"
  | form :: arguments =>
      let all := formatAll form (arguments.length + 1) arguments
      { call.prints all.text with
        stderr := all.problems.flatMap call.complaint
        status :=
          if all.isBroken then 2 else if all.problems.isEmpty then 0 else 1 }

/-- Print arguments in the form of the first one. -/
def printf
    (call : ToolCall) :
    ToolResult :=
  match call.arguments with
  | ['-', '-'] :: arguments => printForm call arguments
  | ('-' :: c :: _) :: _ => call.complains 2 s!"Illegal option -{c}"
  | arguments => printForm call arguments

end Tool

end BenchmarkOrchestration.Interpreter
