import BenchmarkOrchestration.Interpreter.Regex
import BenchmarkOrchestration.Interpreter.Tool.Call

namespace BenchmarkOrchestration.Interpreter

/-!
# Editing lines

An editing script is a list of commands, each for the lines that its addresses select.  The
commands run on one line after the other; a line is printed after the last command unless it was
deleted.
-/

namespace Tool

namespace Editing

/-- A line that a command is for. -/
inductive Address where
  | number (line : Nat)
  | last
  | matching (regex : Regex)

/-- A part of the text that replaces a match: a character, or a group; all of it is group zero. -/
inductive Piece where
  | char (c : Char)
  | group (index : Nat)

/-- What a command does with a line. -/
inductive Action where
  | substitute (regex : Regex) (pieces : List Piece) (occurrence : Nat) (isGlobal prints : Bool)
  | print
  | delete
  | quit

/-- An action for all lines, for those of one address, or from one address to another. -/
structure Command where
  first : Option Address
  second : Option Address
  isInverted : Bool
  action : Action

/-- Why a script is refused, with the text that was left when this was noticed. -/
abbrev Reading (α : Type) := Except (String × List Char) α

/-- The text up to a delimiter, and the text after it; a backslash protects the delimiter. -/
def delimited
    (delimiter : Char) :
    List Char → Option (List Char × List Char)
  | [] => none
  | '\\' :: c :: rest => do
      let (inner, rest) ← delimited delimiter rest
      let kept :=
        if c = delimiter then [c]
        else if c = 'n' then ['\n']
        else if c = 't' then ['\t']
        else ['\\', c]
      some (kept ++ inner, rest)
  | c :: rest =>
      if c = delimiter then
        some ([], rest)
      else do
        let (inner, rest) ← delimited delimiter rest
        some (c :: inner, rest)

/-- The address that stands next, if there is one. -/
def address
    (isExtended : Bool)
    (text : List Char) :
    Reading (Option Address × List Char) :=
  match text with
  | '$' :: rest => .ok (some .last, rest)
  | '/' :: rest =>
      match delimited '/' rest with
      | some (inner, rest) => .ok (some (.matching (Regex.ofText isExtended inner)), rest)
      | none => .error ("unterminated address regex", [])
  | text =>
      let digits := text.takeWhile Char.isDigit
      .ok ((Octets.nat? digits).map .number, text.drop digits.length)

/-- The pieces of a replacement. -/
def pieces : List Char → List Piece
  | [] => []
  | '\\' :: c :: rest =>
      (if c.isDigit then .group (c.toNat - '0'.toNat) else .char c) :: pieces rest
  | '&' :: rest => .group 0 :: pieces rest
  | c :: rest => .char c :: pieces rest

/-- Whether a character ends a command. -/
def endsCommand
    (c : Char) :
    Bool :=
  c ∈ [';', '\n', '\x7d', '#']

/-- The action of a substitution, and the text after its flags. -/
def substitution
    (isExtended : Bool) :
    List Char → Reading (Action × List Char)
  | [] => .error ("unterminated \x60s' command", [])
  | delimiter :: rest =>
      let parts? := do
        let (pattern, rest) ← delimited delimiter rest
        let (replacement, rest) ← delimited delimiter rest
        some (pattern, replacement, rest)
      match parts? with
      | none => .error ("unterminated \x60s' command", [])
      | some (pattern, replacement, rest) =>
          let flags := rest.takeWhile fun c => !endsCommand c && c ≠ ' '
          let digits := flags.filter Char.isDigit
          match flags.find? fun c => !c.isDigit && c ≠ 'g' && c ≠ 'p' with
          | some c =>
              .error ("unknown option to \x60s'", (rest.dropWhile (· ≠ c)).drop 1)
          | none =>
              .ok
                ( .substitute (Regex.ofText isExtended pattern) (pieces replacement)
                    ((Octets.nat? digits).getD 1) (flags.contains 'g') (flags.contains 'p'),
                  rest.drop flags.length )

/-- Whether a character may stand between commands. -/
def isBetween
    (c : Char) :
    Bool :=
  c = ' ' || c = '\t' || c = ';' || c = '\n'

/-- The commands of a script. -/
def commands
    (isExtended : Bool) :
    (fuel : Nat) → List Char → Reading (List Command)
  | 0, _ => .ok []
  | fuel + 1, text => do
      let isBlank := fun (c : Char) => c = ' ' || c = '\t'
      match text.dropWhile isBetween with
      | [] => return []
      | '#' :: rest => commands isExtended fuel (rest.dropWhile (· ≠ '\n'))
      | text => do
          let (first, text) ← address isExtended text
          let (second, text) ←
            match text with
            | ',' :: text => address isExtended (text.dropWhile isBlank)
            | text => pure (none, text)
          let text := text.dropWhile isBlank
          let isInverted := text.head? = some '!'
          let text := (text.dropWhile (· = '!')).dropWhile isBlank
          let (action, text) ←
            match text with
            | [] => throw ("missing command", [])
            | 's' :: text => substitution isExtended text
            | 'p' :: text => pure (.print, text)
            | 'd' :: text => pure (.delete, text)
            | 'q' :: text => pure (.quit, text)
            | c :: text => throw (s!"unknown command: \x60{c}'", text)
          let text := text.dropWhile isBlank
          match text with
          | c :: after =>
              if !endsCommand c then
                throw ("extra characters after command", after)
          | [] => pure ()
          return ⟨first, second, isInverted, action⟩ :: (← commands isExtended fuel text)

/-- A line with its number, and whether it is the last one. -/
structure Line where
  text : List Char
  number : Nat
  isLast : Bool

/-- Whether a line is the one of an address. -/
def isAt
    (line : Line) : Address → Bool
  | .number n => line.number = n
  | .last => line.isLast
  | .matching regex => regex.matchesIn line.text.toArray

/-- Whether a range ends with a line that is not its first. -/
def isEnd
    (line : Line) : Address → Bool
  | .number n => n ≤ line.number
  | address => isAt line address

/-- Whether a command is for a line, and whether its range is open after the line. -/
def selects
    (line : Line)
    (command : Command)
    (isOpen : Bool) :
    Bool × Bool :=
  let (isChosen, isOpen) :=
    match command.first, command.second with
    | none, _ => (true, false)
    | some first, none => (isAt line first, false)
    | some first, some second =>
        if isOpen then
          (true, !isEnd line second)
        else if isAt line first then
          let endsHere :=
            match second with
            | .number n => n ≤ line.number
            | .last => line.isLast
            | .matching _ => false
          (true, !endsHere)
        else
          (false, false)
  (isChosen != command.isInverted, isOpen)

/-- The text that replaces a match. -/
def replacement
    (line : Array Char)
    (start : Nat)
    (found : Regex.Match)
    (pieces : List Piece) :
    List Char :=
  pieces.flatMap fun
    | .char c => [c]
    | .group 0 => (line.extract start found.stop).toList
    | .group index =>
        match found.groups.lookup index with
        | some (start, stop) => (line.extract start stop).toList
        | none => []

/-- The first match at or after a place, with the place at which it begins. -/
def firstMatch?
    (regex : Regex)
    (line : Array Char)
    (start : Nat) :
    Option (Nat × Regex.Match) :=
  ((List.range (line.size + 1)).drop start).findSome? fun place =>
    (regex.longest? line place).map fun found => (place, found)

/--
The line from a place on with matches replaced, and whether there was one.  A match without
characters does not count directly behind another match.
-/
def substituted
    (regex : Regex)
    (pieces : List Piece)
    (occurrence : Nat)
    (isGlobal : Bool)
    (line : Array Char) :
    (fuel : Nat) → (place count : Nat) → (isBehind : Bool) → List Char × Bool
  | 0, place, _, _ => ((line.extract place line.size).toList, false)
  | fuel + 1, place, count, isBehind =>
      match if place ≤ line.size then firstMatch? regex line place else none with
      | none => ((line.extract place line.size).toList, false)
      | some (start, found) =>
          let before := (line.extract place start).toList
          let isEmpty : Bool := found.stop = start
          let next := if isEmpty then start + 1 else found.stop
          let passed := (line.extract found.stop next).toList
          let goOn := substituted regex pieces occurrence isGlobal line fuel next
          if isEmpty && isBehind && start = place then
            let (rest, isChanged) := goOn count false
            (before ++ passed ++ rest, isChanged)
          else if count + 1 < occurrence then
            let (rest, isChanged) := goOn (count + 1) !isEmpty
            (before ++ (line.extract start found.stop).toList ++ passed ++ rest, isChanged)
          else
            let changed := replacement line start found pieces
            let rest :=
              if isGlobal then (goOn (count + 1) !isEmpty).1
              else (line.extract next line.size).toList
            (before ++ changed ++ passed ++ rest, true)

/-- What became of a line. -/
structure Outcome where
  printed : List (List Char)
  text : Option (List Char)
  isOver : Bool
  ranges : List Bool

/-- Run commands on a line; the open ranges are those of the commands in order. -/
def runCommands
    (line : Line) :
    List (Command × Bool) → Outcome
  | [] => ⟨[], some line.text, false, []⟩
  | (command, isOpen) :: rest =>
      let (isChosen, isOpen) := selects line command isOpen
      let unchanged := rest.map Prod.snd
      let later := fun (line : Line) =>
        let outcome := runCommands line rest
        { outcome with ranges := isOpen :: outcome.ranges }
      if isChosen then
        match command.action with
        | .delete => ⟨[], none, false, isOpen :: unchanged⟩
        | .quit => ⟨[], some line.text, true, isOpen :: unchanged⟩
        | .print =>
            let outcome := later line
            { outcome with printed := line.text :: outcome.printed }
        | .substitute regex pieces occurrence isGlobal prints =>
            let chars := line.text.toArray
            let (text, isChanged) :=
              substituted regex pieces occurrence isGlobal chars (chars.size + 2) 0 0 false
            let outcome := later { line with text }
            if prints && isChanged then
              { outcome with printed := text :: outcome.printed }
            else
              outcome
      else
        later line

/-- What is printed for lines one after the other. -/
def runLines
    (isQuiet : Bool)
    (script : List Command) :
    (ranges : List Bool) → List Line → List (List Char)
  | _, [] => []
  | ranges, line :: lines =>
      let outcome := runCommands line (script.zip ranges)
      let printed := outcome.printed ++ if isQuiet then [] else outcome.text.toList
      if outcome.isOver then printed
      else printed ++ runLines isQuiet script outcome.ranges lines

/-- A text edited by a script; it keeps an unfinished last line unfinished. -/
def edited
    (isQuiet : Bool)
    (script : List Command)
    (text : Octets) :
    Octets :=
  let all := Octets.lines text
  let lines := all.zipIdx.map fun (line, place) =>
    (⟨line, place + 1, place + 1 = all.length⟩ : Line)
  let printed := runLines isQuiet script (script.map fun _ => false) lines
  let whole := Octets.unlines printed
  if text.getLast? = some '\n' ∨ printed.isEmpty then whole else whole.dropLast

end Editing

/-- Edit files or the input by a script. -/
def sed
    (call : ToolCall) :
    ToolResult :=
  let options := options call "nrEi" "e"
  let given := (options.flags.filter fun (flag, _) => flag = 'e').map Prod.snd
  let (scripts, files) :=
    match given, options.operands with
    | [], script :: files => ([script], files)
    | given, files => (given, files)
  let text := Octets.join ['\n'] scripts
  let isExtended := options.has 'r' || options.has 'E'
  match options.unknown, Editing.commands isExtended (text.length + 1) text with
  | some c, _ => invalidOption call 1 c
  | none, .error (reason, left) =>
      call.complains 1 s!"-e expression #1, char {text.length - left.length}: {reason}"
  | none, .ok script =>
      let cannotRead := fun (file : Octets) (fault : FileFault) =>
        s!"can't read {Octets.toText file}: {fault.shortText}"
      let edited := Editing.edited (options.has 'n') script
      if options.has 'i' then
        eachChange 4
          (fun call file =>
            match contentOf call file with
            | .ok source =>
                (call.tree.write call.here (Octets.toText file)
                  (Octets.toBytes (edited source.text))).mapError (cannotRead file)
            | .error fault => .error (cannotRead file fault))
          files call
      else
        let read := eachFile call 2 cannotRead (fun _ source => source) (operandsOrInput files)
        { read with output := ⟨edited read.output.text, []⟩ }

end Tool

end BenchmarkOrchestration.Interpreter
