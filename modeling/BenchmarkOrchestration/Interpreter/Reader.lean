import BenchmarkOrchestration.Interpreter.Script
import BenchmarkOrchestration.Text.Affix

namespace BenchmarkOrchestration.Interpreter

/-!
# Reading scripts

A script is read line by line, so that the lines before a faulty one still run.  A line ends where
a sentence is complete, which may be several lines of text later.  All readers take what they need
from the front of the input and carry the number of the line that they have reached.
-/

/-- The text that is still to be read, and the number of its first line. -/
structure Input where
  rest : List Char
  line : Nat

/-- Why a script cannot be read, with the line at which this was noticed. -/
structure Complaint where
  line : Nat
  text : String
  deriving Repr, DecidableEq

/-- A reader of a part of a script. -/
abbrev Read := StateT Input (Except Complaint)

/-- The lines of a script that can be read, and what is wrong with the next. -/
structure Program where
  lines : List (List Sentence)
  complaint : Option Complaint

namespace Reader

/-- Characters that end a word when they are not quoted. -/
def endsWord
    (c : Char) :
    Bool :=
  c ∈ [' ', '\t', '\n', ';', '&', '|', '<', '>', '(', ')']

/-- Characters that stand for themselves inside an unquoted word. -/
def isPlain
    (c : Char) :
    Bool :=
  !endsWord c && c ∉ ['\\', '\'', '"', '$', '\x60']

/-- Whether a character may begin a name. -/
def beginsName
    (c : Char) :
    Bool :=
  c.isAlpha || c = '_'

/-- Whether a character may stand in a name. -/
def continuesName
    (c : Char) :
    Bool :=
  c.isAlphanum || c = '_'

/-- Names of parameters that are one character. -/
def isSpecialName
    (c : Char) :
    Bool :=
  c.isDigit || c ∈ ['@', '*', '#', '?', '-', '$', '!']

/-- Words that close or divide a compound command. -/
def closingWords : List String :=
  ["then", "else", "elif", "fi", "do", "done", "esac", "\x7d"]

/-- Give up with a text. -/
def complain
    (text : String) :
    Read α := do
  throw ⟨(← get).line, "Syntax error: " ++ text⟩

/-- The text that is still to be read. -/
def remaining : Read (List Char) := do
  return (← get).rest

/-- Take a number of characters. -/
def take
    (count : Nat) :
    Read (List Char) := do
  let input ← get
  let taken := input.rest.take count
  set (⟨input.rest.drop count, input.line + taken.count '\n'⟩ : Input)
  return taken

/-- Take characters as long as they satisfy a condition. -/
def takeWhile
    (condition : Char → Bool) :
    Read (List Char) := do
  take ((← remaining).takeWhile condition).length

/-- The number of characters that blanks and joined lines at the front of a text take. -/
def blankLength : List Char → Nat
  | ' ' :: rest => blankLength rest + 1
  | '\t' :: rest => blankLength rest + 1
  | '\\' :: '\n' :: rest => blankLength rest + 2
  | _ => 0

/-- Skip blanks, joined lines and a comment. -/
def skipBlanks : Read Unit := do
  let _ ← take (blankLength (← remaining))
  match ← remaining with
  | '#' :: _ =>
      let _ ← takeWhile (· ≠ '\n')
  | _ => pure ()

/-- Skip blanks, comments and empty lines. -/
def skipLines : (fuel : Nat) → Read Unit
  | 0 => pure ()
  | fuel + 1 => do
      skipBlanks
      match ← remaining with
      | '\n' :: _ =>
          let _ ← take 1
          skipLines fuel
      | _ => pure ()

/-- Whether a text stands next; if so it is taken. -/
def accept
    (text : String) :
    Read Bool := do
  if text.toList.isPrefixOf (← remaining) then
    let _ ← take text.length
    return true
  else
    return false

/-- The plain characters that stand next, as far as they can be a word of the language. -/
def nextWord : Read String := do
  return String.ofList ((← remaining).takeWhile isPlain)

/-- Whether a word of the language stands next, with nothing joined to it; if so it is taken. -/
def acceptWord
    (word : String) :
    Read Bool := do
  let text ← remaining
  let plain := text.takeWhile isPlain
  let isWhole : Bool :=
    match text.drop plain.length with
    | [] => true
    | c :: _ => endsWord c
  if isWhole && String.ofList plain = word then
    let _ ← take plain.length
    return true
  else
    return false

/-- How the next token is called in a complaint. -/
def tokenName : Read String := do
  skipBlanks
  match ← remaining with
  | [] => return "end of file"
  | '\n' :: _ => return "newline"
  | ';' :: ';' :: _ => return "\";;\""
  | '&' :: '&' :: _ => return "\"&&\""
  | '|' :: '|' :: _ => return "\"||\""
  | '<' :: _ => return "redirection"
  | '>' :: _ => return "redirection"
  | c :: _ =>
      if endsWord c then
        return String.ofList ['"', c, '"']
      else
        let word ← nextWord
        if word ∈ closingWords then return "\"" ++ word ++ "\"" else return "word"

/-- Complain about the next token. -/
def unexpected : Read α := do
  complain ((← tokenName) ++ " unexpected")

/-- Complain about the next token in the place of another. -/
def expected
    (token : String) :
    Read α := do
  complain ((← tokenName) ++ " unexpected (expecting \"" ++ token ++ "\")")

/-- Complain about the next token in the place of any word. -/
def expectedAnyWord : Read α := do
  complain ((← tokenName) ++ " unexpected (expecting word)")

/-- A word of the language that must stand next. -/
def requireWord
    (word : String) :
    Read Unit := do
  skipBlanks
  if !(← acceptWord word) then
    expected word

/-- The text of a substitution in backquotes, without the backslashes that protect it. -/
def backquoted : (fuel : Nat) → Read (List Char)
  | 0 => complain "EOF in backquote substitution"
  | fuel + 1 => do
      match ← take 1 with
      | [] => complain "EOF in backquote substitution"
      | ['\x60'] => return []
      | ['\\'] =>
          match ← take 1 with
          | [c] =>
              let rest ← backquoted fuel
              return if c ∈ ['$', '\x60', '\\'] then c :: rest else '\\' :: c :: rest
          | _ => complain "EOF in backquote substitution"
      | c :: _ => return c :: (← backquoted fuel)

/--
The text before a delimiter line, and the lines after it.  Without such a line the text goes on to
the end, and its last line need not be a whole one.
-/
def splitHere
    (delimiter : List Char)
    (stripTabs : Bool) :
    (lines : List (List Char)) → List Char × List (List Char)
  | [] => ([], [])
  | line :: lines =>
      let line := if stripTabs then line.dropWhile (· = '\t') else line
      if line = delimiter then
        ([], lines)
      else
        let (body, rest) := splitHere delimiter stripTabs lines
        (line ++ (if lines.isEmpty then body else '\n' :: body), rest)

/-- Take the body of a text that stands below the current line. -/
def takeHere
    (delimiter : List Char)
    (stripTabs : Bool) :
    Read (List Char) := do
  let input ← get
  let current := input.rest.takeWhile (· ≠ '\n')
  let below := input.rest.drop (current.length + 1)
  let (body, rest) := splitHere delimiter stripTabs (splitAt '\n' below)
  set (⟨current ++ '\n' :: Octets.join ['\n'] rest, input.line⟩ : Input)
  return body

/-- Whether a text is a name. -/
def isName : List Char → Bool
  | [] => false
  | c :: rest => beginsName c && rest.all continuesName

mutual

/-- The parts of a word up to the first character that ends it. -/
def wordParts : (fuel : Nat) → Read (List Part)
  | 0 => unexpected
  | fuel + 1 => do
      match ← remaining with
      | [] => return []
      | '\\' :: '\n' :: _ =>
          let _ ← take 2
          wordParts fuel
      | '\\' :: _ :: _ =>
          let c ← take 2
          return .literal (c.drop 1) true :: (← wordParts fuel)
      | '\'' :: _ =>
          return (← singleQuoted) :: (← wordParts fuel)
      | '"' :: _ =>
          let _ ← take 1
          let inner ← doubleQuoted fuel
          return .literal [] true :: inner ++ (← wordParts fuel)
      | '$' :: _ => do
          let _ ← take 1
          return (← dollar fuel false) :: (← wordParts fuel)
      | '\x60' :: _ =>
          let _ ← take 1
          return (← backquote fuel false) :: (← wordParts fuel)
      | c :: _ =>
          if endsWord c then
            return []
          else if c = '\\' then
            let _ ← take 1
            return [.literal ['\\'] true]
          else
            let plain ← takeWhile isPlain
            return .literal plain false :: (← wordParts fuel)

/-- Text in single quotes, in which nothing is special. -/
def singleQuoted : Read Part := do
  let _ ← take 1
  let text ← takeWhile (· ≠ '\'')
  if ← accept "'" then
    return .literal text true
  else
    complain "Unterminated quoted string"

/-- Parts in double quotes, and the closing quote. -/
def doubleQuoted : (fuel : Nat) → Read (List Part)
  | 0 => complain "Unterminated quoted string"
  | fuel + 1 => do
      match ← remaining with
      | [] => complain "Unterminated quoted string"
      | '"' :: _ =>
          let _ ← take 1
          return []
      | _ => do
          let part ← quotedPart fuel
          return part :: (← doubleQuoted fuel)

/-- One part of a text in which only dollar, backquote and backslash are special. -/
def quotedPart : (fuel : Nat) → Read Part
  | 0 => complain "Unterminated quoted string"
  | fuel + 1 => do
      match ← remaining with
      | '\\' :: '\n' :: _ =>
          let _ ← take 2
          return .literal [] true
      | '\\' :: c :: _ =>
          let both ← take 2
          return .literal (if c ∈ ['$', '\x60', '"', '\\'] then [c] else both) true
      | '$' :: _ =>
          let _ ← take 1
          dollar fuel true
      | '\x60' :: _ =>
          let _ ← take 1
          backquote fuel true
      | _ =>
          return .literal (← take 1) true

/-- The substitution of the output of a script in backquotes. -/
def backquote : (fuel : Nat) → (isQuoted : Bool) → Read Part
  | 0, _ => unexpected
  | fuel + 1, isQuoted => do
      let inner ← backquoted (← remaining).length.succ
      let input ← get
      set (⟨inner, input.line⟩ : Input)
      let body ← sentences fuel true
      skipLines inner.length.succ
      if (← remaining).isEmpty then
        set input
        return .output body isQuoted
      else
        unexpected

/-- What a dollar sign begins. -/
def dollar : (fuel : Nat) → (isQuoted : Bool) → Read Part
  | 0, _ => unexpected
  | fuel + 1, isQuoted => do
      match ← remaining with
      | '(' :: '(' :: _ =>
          let _ ← take 2
          return .arithmetic (← arithmeticParts fuel 0) isQuoted
      | '(' :: _ =>
          let _ ← take 1
          let body ← sentences fuel true
          skipLines (← remaining).length.succ
          if ← accept ")" then
            return .output body isQuoted
          else
            expected ")"
      | '\x7b' :: _ =>
          let _ ← take 1
          braced fuel isQuoted
      | c :: _ =>
          if beginsName c then
            return .parameter (← takeWhile continuesName) .value isQuoted
          else if isSpecialName c then
            return .parameter (← take 1) .value isQuoted
          else
            return .literal ['$'] isQuoted
      | [] => return .literal ['$'] isQuoted

/-- The parts of an arithmetic expression up to its closing parentheses. -/
def arithmeticParts : (fuel depth : Nat) → Read (List Part)
  | 0, _ => complain "Missing '))'"
  | fuel + 1, depth => do
      match ← remaining, depth with
      | [], _ => complain "Missing '))'"
      | ')' :: ')' :: _, 0 =>
          let _ ← take 2
          return []
      | ')' :: _, depth =>
          let c ← take 1
          return .literal c true :: (← arithmeticParts fuel (depth - 1))
      | '(' :: _, depth =>
          let c ← take 1
          return .literal c true :: (← arithmeticParts fuel (depth + 1))
      | '"' :: _, depth =>
          let _ ← take 1
          arithmeticParts fuel depth
      | _, depth =>
          return (← quotedPart fuel) :: (← arithmeticParts fuel depth)

/-- The name of a parameter in braces; a character that begins none is skipped. -/
def parameterName : Read (List Char) := do
  match ← remaining with
  | c :: _ =>
      if beginsName c then
        takeWhile continuesName
      else if c.isDigit then
        takeWhile Char.isDigit
      else if isSpecialName c then
        take 1
      else
        let _ ← if c = '\x7d' then pure [] else take 1
        return []
  | [] => return []

/--
A parameter in braces, after the opening brace.  A use that does not exist is read up to the closing
brace, and fails only when it is needed.
-/
def braced : (fuel : Nat) → (isQuoted : Bool) → Read Part
  | 0, _ => unexpected
  | fuel + 1, isQuoted => do
      let meaningless : Read Part := do
        let _ ← braceParts fuel isQuoted
        return .parameter [] .meaningless isQuoted
      let isLength :=
        match ← remaining with
        | '#' :: c :: rest =>
            continuesName c || (isSpecialName c && rest.head? = some '\x7d')
        | _ => false
      if isLength then
        let _ ← take 1
        let name ← parameterName
        if ← accept "\x7d" then return .parameter name .length isQuoted else meaningless
      else
        let name ← parameterName
        if name.isEmpty then
          meaningless
        else
          let alsoEmpty ← accept ":"
          let otherwise := fun (action : Fallback) => do
            let word ← braceParts fuel isQuoted
            return Part.parameter name (.otherwise action alsoEmpty word) isQuoted
          match ← take 1 with
          | ['\x7d'] =>
              if alsoEmpty then
                let _ ← braceParts fuel isQuoted
              return .parameter name .value isQuoted
          | ['-'] => otherwise .useWord
          | ['='] => otherwise .assignWord
          | ['?'] => otherwise .fail
          | ['+'] => otherwise .replaceSet
          | ['%'] =>
              let longest ← accept "%"
              return .parameter name (.cut false longest (← braceParts fuel false)) isQuoted
          | ['#'] =>
              let longest ← accept "#"
              return .parameter name (.cut true longest (← braceParts fuel false)) isQuoted
          | _ => meaningless

/-- The parts of a word in braces, and the closing brace. -/
def braceParts : (fuel : Nat) → (isQuoted : Bool) → Read (List Part)
  | 0, _ => complain "Missing '\x7d'"
  | fuel + 1, isQuoted => do
      match ← remaining with
      | [] => complain (if isQuoted then "Unterminated quoted string" else "Missing '\x7d'")
      | '\x7d' :: _ =>
          let _ ← take 1
          return []
      | '\'' :: _ =>
          if isQuoted then
            let c ← take 1
            return .literal c true :: (← braceParts fuel isQuoted)
          else
            return (← singleQuoted) :: (← braceParts fuel isQuoted)
      | '"' :: _ =>
          let _ ← take 1
          let inner ← doubleQuoted fuel
          return .literal [] true :: inner ++ (← braceParts fuel isQuoted)
      | '\\' :: _ :: _ =>
          let c ← take 2
          return .literal (c.drop 1) true :: (← braceParts fuel isQuoted)
      | '$' :: _ =>
          let _ ← take 1
          return (← dollar fuel isQuoted) :: (← braceParts fuel isQuoted)
      | '\x60' :: _ =>
          let _ ← take 1
          return (← backquote fuel isQuoted) :: (← braceParts fuel isQuoted)
      | _ =>
          let c ← take 1
          return .literal c isQuoted :: (← braceParts fuel isQuoted)

/-- A word that must stand next. -/
def word : (fuel : Nat) → Read (List Part)
  | 0 => unexpected
  | fuel + 1 => do
      skipBlanks
      match ← remaining with
      | [] => unexpected
      | c :: _ => if endsWord c then unexpected else wordParts fuel

/-- The redirection that stands next. -/
def redirection : (fuel : Nat) → Read (Option Redirection)
  | 0 => unexpected
  | fuel + 1 => do
      let text ← remaining
      let digits := text.takeWhile Char.isDigit
      match text.drop digits.length with
      | '<' :: _ =>
          let _ ← take (digits.length + 1)
          let descriptor := (Octets.nat? digits).getD 0
          if ← accept "<" then
            let stripTabs ← accept "-"
            let delimiter ← word fuel
            let isQuoted := delimiter.any fun
              | .literal _ quoted => quoted
              | _ => false
            let name := delimiter.flatMap fun
              | .literal text _ => text
              | _ => []
            let body ← takeHere name stripTabs
            if isQuoted then
              return some (.text descriptor [.literal body true])
            else
              let input ← get
              set (⟨body, input.line⟩ : Input)
              let content ← hereParts fuel
              set input
              return some (.text descriptor content)
          else if ← accept "&" then
            return some (.copy descriptor (← word fuel))
          else if ← accept ">" then
            return some (.file descriptor .readingWriting (← word fuel))
          else
            return some (.file descriptor .reading (← word fuel))
      | '>' :: _ =>
          let _ ← take (digits.length + 1)
          let descriptor := (Octets.nat? digits).getD 1
          if ← accept ">" then
            return some (.file descriptor .appending (← word fuel))
          else if ← accept "&" then
            return some (.copy descriptor (← word fuel))
          else
            let _ ← accept "|"
            return some (.file descriptor .writing (← word fuel))
      | _ => return none

/-- The parts of a text below a line, up to its end. -/
def hereParts : (fuel : Nat) → Read (List Part)
  | 0 => return []
  | fuel + 1 => do
      match ← remaining with
      | [] => return []
      | '\\' :: '"' :: _ =>
          let both ← take 2
          return .literal both true :: (← hereParts fuel)
      | _ => return (← quotedPart fuel) :: (← hereParts fuel)

/-- The redirections that stand next. -/
def redirections : (fuel : Nat) → Read (List Redirection)
  | 0 => unexpected
  | fuel + 1 => do
      skipBlanks
      match ← redirection fuel with
      | some first => return first :: (← redirections fuel)
      | none => return []

/-- The name and the first part of the value, when a word is an assignment. -/
def assignment? : List Part → Option (Octets × List Part)
  | .literal text false :: rest =>
      let name := text.takeWhile continuesName
      match name, text.drop name.length with
      | c :: _, '=' :: value =>
          if beginsName c then
            some (name, if value.isEmpty then rest else .literal value false :: rest)
          else
            none
      | _, _ => none
  | _ => none

/-- The rest of a simple command, whose parts up to here are given in reverse. -/
def simpleRest : (fuel : Nat) → (line : Nat) → List (Octets × List Part) → List (List Part) →
    List Redirection → Read Node
  | 0, _, _, _, _ => unexpected
  | fuel + 1, line, assignments, words, changes => do
      skipBlanks
      match ← redirection fuel with
      | some change => simpleRest fuel line assignments words (change :: changes)
      | none =>
          let stop : Read Node := do
            if assignments.isEmpty ∧ words.isEmpty ∧ changes.isEmpty then
              unexpected
            else
              return .simple line assignments.reverse words.reverse changes.reverse
          match ← remaining, words with
          | [], _ => stop
          | '(' :: _, [[.literal name false]] =>
              let _ ← take 1
              skipBlanks
              if !(← accept ")") then
                expected ")"
              if !isName name then
                complain "Bad function name"
              skipLines (← remaining).length.succ
              return .define name (← command fuel)
          | c :: _, _ =>
              if endsWord c then
                stop
              else
                let next ← wordParts fuel
                match words, assignment? next with
                | [], some found => simpleRest fuel line (found :: assignments) words changes
                | _, _ => simpleRest fuel line assignments (next :: words) changes

/-- Sentences over several lines, of which there must be one before another word. -/
def block : (fuel : Nat) → Read (List Sentence)
  | 0 => unexpected
  | fuel + 1 => do
      let body ← sentences fuel true
      if body.isEmpty && !(← remaining).isEmpty then unexpected else return body

/-- The condition, body and other branches of a conditional, after its first word. -/
def branches : (fuel : Nat) →
    Read (List (List Sentence × List Sentence) × List Sentence)
  | 0 => unexpected
  | fuel + 1 => do
      let condition ← block fuel
      requireWord "then"
      let body ← block fuel
      if ← acceptWord "elif" then
        let (arms, otherwise) ← branches fuel
        return ((condition, body) :: arms, otherwise)
      else if ← acceptWord "else" then
        let otherwise ← block fuel
        requireWord "fi"
        return ([(condition, body)], otherwise)
      else
        requireWord "fi"
        return ([(condition, body)], [])

/-- The patterns of an arm of a case, and the parenthesis after them. -/
def armPatterns : (fuel : Nat) → Read (List (List Part))
  | 0 => unexpected
  | fuel + 1 => do
      let first ← word fuel
      skipBlanks
      if ← accept "|" then
        return first :: (← armPatterns fuel)
      else if ← accept ")" then
        return [first]
      else
        expected ")"

/-- The arms of a case, and its last word. -/
def arms : (fuel : Nat) → Read (List (List (List Part) × List Sentence))
  | 0 => unexpected
  | fuel + 1 => do
      skipLines (← remaining).length.succ
      if ← acceptWord "esac" then
        return []
      else if (← remaining).isEmpty then
        expected ")"
      else
        let _ ← accept "("
        let patterns ← armPatterns fuel
        let body ← sentences fuel true
        skipLines (← remaining).length.succ
        if ← accept ";;" then
          return (patterns, body) :: (← arms fuel)
        else if ← acceptWord "esac" then
          return [(patterns, body)]
        else
          expected ";;"

/-- The words of a loop over words, up to the end of the sentence. -/
def eachWords : (fuel : Nat) → Read (List (List Part))
  | 0 => unexpected
  | fuel + 1 => do
      skipBlanks
      match ← remaining with
      | [] => return []
      | c :: _ => if endsWord c then return [] else return (← wordParts fuel) :: (← eachWords fuel)

/-- The body of a loop between its two words. -/
def loopBody : (fuel : Nat) → Read (List Sentence)
  | 0 => unexpected
  | fuel + 1 => do
      skipLines (← remaining).length.succ
      requireWord "do"
      let body ← block fuel
      requireWord "done"
      return body

/-- A command. -/
def command : (fuel : Nat) → Read Node
  | 0 => unexpected
  | fuel + 1 => do
      skipBlanks
      let line := (← get).line
      if ← acceptWord "if" then
        let (arms, otherwise) ← branches fuel
        return .branches arms otherwise (← redirections fuel)
      else if ← acceptWord "while" then
        let condition ← block fuel
        let body ← loopBody fuel
        return .loop true condition body (← redirections fuel)
      else if ← acceptWord "until" then
        let condition ← block fuel
        let body ← loopBody fuel
        return .loop false condition body (← redirections fuel)
      else if ← acceptWord "for" then
        skipBlanks
        let name ← nextWord
        if !isName name.toList || !(← acceptWord name) then
          complain "Bad for loop variable"
        skipLines (← remaining).length.succ
        let words ← do
          if ← acceptWord "in" then
            let words ← eachWords fuel
            match ← remaining with
            | '\n' :: _ => let _ ← take 1
            | ';' :: _ => let _ ← take 1
            | _ => unexpected
            pure (some words)
          else
            let _ ← accept ";"
            pure none
        let body ← loopBody fuel
        return .each name.toList words body (← redirections fuel)
      else if ← acceptWord "case" then
        skipBlanks
        if (← remaining).head?.all endsWord then
          expectedAnyWord
        let subject ← word fuel
        skipLines (← remaining).length.succ
        requireWord "in"
        let arms ← arms fuel
        return .select subject arms (← redirections fuel)
      else if ← acceptWord "\x7b" then
        let body ← block fuel
        requireWord "\x7d"
        return .group body (← redirections fuel)
      else if (← nextWord) ∈ closingWords then
        unexpected
      else if ← accept "(" then
        let body ← block fuel
        skipLines (← remaining).length.succ
        if ← accept ")" then
          return .subshell body (← redirections fuel)
        else
          expected ")"
      else
        simpleRest fuel line [] [] []

/-- Commands joined by pipes. -/
def commands : (fuel : Nat) → Read (List Node)
  | 0 => unexpected
  | fuel + 1 => do
      let first ← command fuel
      skipBlanks
      match ← remaining with
      | '|' :: '|' :: _ => return [first]
      | '|' :: _ =>
          let _ ← take 1
          skipLines (← remaining).length.succ
          return first :: (← commands fuel)
      | _ => return [first]

/-- A pipeline. -/
def pipeline : (fuel : Nat) → Read Pipeline
  | 0 => unexpected
  | fuel + 1 => do
      skipBlanks
      let isNegated ← acceptWord "!"
      return .mk isNegated (← commands fuel)

/-- The pipelines that are joined to a first one. -/
def joined : (fuel : Nat) → Read (List (Joint × Pipeline))
  | 0 => unexpected
  | fuel + 1 => do
      skipBlanks
      if ← accept "&&" then
        skipLines (← remaining).length.succ
        let next ← pipeline fuel
        return (.afterSuccess, next) :: (← joined fuel)
      else if ← accept "||" then
        skipLines (← remaining).length.succ
        let next ← pipeline fuel
        return (.afterFailure, next) :: (← joined fuel)
      else
        return []

/-- Sentences up to a token that cannot begin one; over several lines only if asked for. -/
def sentences : (fuel : Nat) → (severalLines : Bool) → Read (List Sentence)
  | 0, _ => unexpected
  | fuel + 1, severalLines => do
      if severalLines then
        skipLines (← remaining).length.succ
      else
        skipBlanks
      let isEnd :=
        match ← remaining with
        | [] => true
        | ')' :: _ => true
        | '\n' :: _ => true
        | ';' :: ';' :: _ => true
        | _ => false
      if isEnd || closingWords.contains (← nextWord) then
        return []
      else
        let first ← pipeline fuel
        let others ← joined fuel
        skipBlanks
        match ← remaining with
        | ';' :: ';' :: _ =>
            return [.mk first others false]
        | ';' :: _ =>
            let _ ← take 1
            return .mk first others false :: (← sentences fuel severalLines)
        | '&' :: _ =>
            let _ ← take 1
            return .mk first others true :: (← sentences fuel severalLines)
        | '\n' :: _ =>
            if severalLines then
              return .mk first others false :: (← sentences fuel severalLines)
            else
              return [.mk first others false]
        | _ => return [.mk first others false]

end

/-- The lines of a script, up to the first that cannot be read. -/
def program : (fuel : Nat) → Input → Program
  | 0, _ => ⟨[], none⟩
  | fuel + 1, input =>
      let readLine : Read (Option (List Sentence)) := do
        skipLines input.rest.length.succ
        if (← remaining).isEmpty then
          return none
        else
          let line ← sentences (20 * input.rest.length + 50) false
          match ← remaining with
          | [] => return some line
          | '\n' :: _ => return some line
          | _ => unexpected
      match readLine input with
      | .error complaint => ⟨[], some complaint⟩
      | .ok (none, _) => ⟨[], none⟩
      | .ok (some line, rest) =>
          let later := program fuel rest
          ⟨line :: later.lines, later.complaint⟩

end Reader

namespace Program

/-- The program that a text is. -/
def ofText
    (text : Octets) :
    Program :=
  Reader.program text.length.succ ⟨text, 1⟩

end Program

end BenchmarkOrchestration.Interpreter
