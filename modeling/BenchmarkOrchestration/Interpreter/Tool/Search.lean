import BenchmarkOrchestration.Interpreter.Regex
import BenchmarkOrchestration.Interpreter.Tool.Call

namespace BenchmarkOrchestration.Interpreter

/-!
# Searching lines

A search prints the lines that one of its expressions matches.  Its status is zero if a line was
found, one if none was, and two after a file that cannot be read.
-/

namespace Tool

/-- How lines are searched. -/
structure Search where
  expressions : List Regex
  ignoresCase : Bool
  isWholeLine : Bool
  isWholeWord : Bool
  isInverted : Bool

namespace Search

/-- Whether a character belongs to words. -/
def isWordCharacter
    (c : Char) :
    Bool :=
  c.isAlphanum || c = '_'

/-- Whether words can end before and begin after a part of a line. -/
def isBounded
    (chars : Array Char)
    (start stop : Nat) :
    Bool :=
  let isOutside := fun (c : Option Char) => !(c.any isWordCharacter)
  isOutside (if start = 0 then none else chars[start - 1]?) && isOutside chars[stop]?

/-- The ends of the matches that begin at a place of a line. -/
def ends
    (search : Search)
    (line : Array Char)
    (start : Nat) :
    List Nat :=
  let line := if search.ignoresCase then line.map Char.toLower else line
  let found := search.expressions.flatMap fun regex => regex.ends line start
  if search.isWholeLine then found.filter fun stop => start = 0 && stop = line.size
  else if search.isWholeWord then found.filter fun stop => isBounded line start stop
  else found

/-- Whether a line is among those that are looked for. -/
def selects
    (search : Search)
    (line : Octets) :
    Bool :=
  let line := line.toArray
  let isMatch := (List.range (line.size + 1)).any fun start => !(search.ends line start).isEmpty
  isMatch != search.isInverted

/-- The parts of a line that match, each as long as possible, from left to right. -/
def parts
    (search : Search)
    (line : Array Char) :
    (fuel start : Nat) → List Octets
  | 0, _ => []
  | fuel + 1, start =>
      if line.size < start then
        []
      else
        match (search.ends line start).max? with
        | some stop =>
            if start < stop then
              (line.extract start stop).toList :: parts search line fuel stop
            else
              parts search line fuel (start + 1)
        | none => parts search line fuel (start + 1)

end Search

/-- What a search found in one file. -/
structure Found where
  name : Octets
  lines : List (Nat × Octets)

/-- What is printed for a file in which a search found lines. -/
def foundText
    (options : Options)
    (search : Search)
    (isNamed : Bool)
    (found : Found) :
    Octets :=
  let name := if found.name = ['-'] then "(standard input)".toList else found.name
  let start := if isNamed then name ++ [':'] else []
  let numbered := fun (number : Nat) (text : Octets) =>
    let number := if options.has 'n' then Octets.ofNat number ++ [':'] else []
    start ++ number ++ text ++ ['\n']
  if options.has 'q' then
    []
  else if options.has 'L' then
    if found.lines.isEmpty then name ++ ['\n'] else []
  else if options.has 'l' then
    if found.lines.isEmpty then [] else name ++ ['\n']
  else if options.has 'c' then
    start ++ Octets.ofNat found.lines.length ++ ['\n']
  else if options.has 'o' then
    found.lines.flatMap fun (number, line) =>
      (search.parts line.toArray (line.length + 1) 0).flatMap (numbered number)
  else
    found.lines.flatMap fun (number, line) => numbered number line

/-- Print the lines of files that match. -/
def grep
    (call : ToolCall) :
    ToolResult :=
  let options := options call "qvcinlLowxEFGshHaz" "em"
  let given := (options.flags.filter fun (flag, _) => flag = 'e').map Prod.snd
  match options.unknown, given, options.operands with
  | some c, _, _ =>
      let usage := "Usage: grep [OPTION]... PATTERNS [FILE]...\n"
      let invalid := invalidOption call 2 c
      { invalid with
        stderr :=
          (Octets.lines invalid.stderr).headD [] ++ ['\n'] ++ usage.toList ++
            "Try 'grep --help' for more information.\n".toList }
  | none, [], [] =>
      ⟨.empty,
        ("Usage: grep [OPTION]... PATTERNS [FILE]...\n" ++
          "Try 'grep --help' for more information.\n").toList, 2, call.input, call.tree⟩
  | none, given, operands =>
      let (patterns, files) :=
        match given, operands with
        | [], pattern :: files => ([pattern], files)
        | _, files => (given, files)
      let ignoresCase := options.has 'i'
      let expression := fun (pattern : Octets) =>
        let pattern := if ignoresCase then pattern.map Char.toLower else pattern
        if options.has 'F' then Regex.literal pattern
        else Regex.ofText (options.has 'E') pattern
      let search : Search :=
        ⟨(patterns.flatMap (splitAt '\n')).map expression, ignoresCase, options.has 'x',
          options.has 'w', options.has 'v'⟩
      let files := operandsOrInput files
      let isNamed := options.has 'H' || (1 < files.length && !options.has 'h')
      let limit := (options.value? 'm').bind Octets.nat?
      let found := fun (file : Octets) (source : Source) =>
        let lines := (Octets.lines source.text).zipIdx.filterMap fun (line, place) =>
          if search.selects line then some (place + 1, line) else none
        (⟨file, (limit.map fun limit => lines.take limit).getD lines⟩ : Found)
      let answers := files.map fun file => (file, contentOf call file)
      let all := answers.filterMap fun (file, answer) =>
        match answer with
        | .ok source => some (found file source)
        | .error _ => none
      let complaints := answers.flatMap fun (file, answer) =>
        match answer with
        | .ok _ => []
        | .error fault =>
            if options.has 's' then [] else
              call.complaint s!"{Octets.toText file}: {fault.shortText}"
      let isFound := all.any fun found => !found.lines.isEmpty
      let hasFault := answers.any fun (_, answer) => !answer.toOption.isSome
      { call.prints (all.flatMap (foundText options search isNamed)) with
        stderr := complaints
        status := if hasFault && !(options.has 'q' && isFound) then 2 else if isFound then 0 else 1
        input := if files.contains ['-'] then .empty else call.input }

end Tool

end BenchmarkOrchestration.Interpreter
