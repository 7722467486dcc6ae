import BenchmarkOrchestration.Interpreter.Pattern
import BenchmarkOrchestration.Interpreter.Tool.Call

namespace BenchmarkOrchestration.Interpreter

/-!
# Tools for lines

These tools read texts line by line or character by character and print what they make of them.
-/

namespace Tool

/-- Print files one after the other. -/
def cat
    (call : ToolCall) :
    ToolResult :=
  let options := options call "u" ""
  match options.unknown with
  | some c => invalidOption call 1 c
  | none =>
      eachFile call 1 (fun file fault => shown file ++ ": " ++ fault.shortText)
        (fun _ source => source) (operandsOrInput options.operands)

/-- The wording of tools that print an end of their files. -/
def cannotOpen
    (file : Octets)
    (fault : FileFault) :
    String :=
  match fault with
  | .isDirectory => s!"error reading {quoted file}: Is a directory"
  | fault => s!"cannot open {quoted file} for reading: {fault.shortText}"

/-- The header that names a file when there are several. -/
def withHeader
    (several : Bool)
    (file : Octets)
    (source : Source) :
    Source :=
  if several then
    let name := if file = ['-'] then "standard input".toList else file
    { source with text := "==> ".toList ++ name ++ " <==\n".toList ++ source.text }
  else
    source

/-- The options with a number alone turned into one that names it. -/
def namedCount : List Octets → List Octets
  | ('-' :: c :: digits) :: rest =>
      if c.isDigit ∧ digits.all Char.isDigit then
        ['-', 'n'] :: (c :: digits) :: rest
      else
        ('-' :: c :: digits) :: rest
  | other => other

/-- Print the first lines of files. -/
def head
    (call : ToolCall) :
    ToolResult :=
  let call := { call with arguments := namedCount call.arguments }
  let options := options call "qv" "nc"
  let several := options.operands.length > 1 && !options.has 'q'
  let filter := fun (source : Source) =>
    match (options.value? 'c').bind Octets.nat?, (options.value? 'n').getD "10".toList with
    | some count, _ => (⟨source.firstBytes count, []⟩ : Source)
    | none, '-' :: digits =>
        let lines := Octets.lines source.text
        let kept := lines.take (lines.length - (Octets.nat? digits).getD 0)
        ⟨(Octets.unlines kept).take source.text.length, []⟩
    | none, digits => ⟨source.firstLines ((Octets.nat? digits).getD 0), []⟩
  match options.unknown with
  | some c => invalidOption call 1 c
  | none =>
      eachFile call 1 cannotOpen (fun file source => withHeader several file (filter source))
        (operandsOrInput options.operands)

/-- Print the last lines of files. -/
def tail
    (call : ToolCall) :
    ToolResult :=
  let call := { call with arguments := namedCount call.arguments }
  let options := options call "qv" "nc"
  let several := options.operands.length > 1 && !options.has 'q'
  let filter := fun (source : Source) =>
    let lines := Octets.lines source.text
    let isWhole := source.text.getLast? = some '\n'
    let text :=
      match (options.value? 'c').bind Octets.nat?, (options.value? 'n').getD "10".toList with
      | some count, _ => source.text.drop (source.text.length - count)
      | none, '+' :: digits => Octets.unlines (lines.drop ((Octets.nat? digits).getD 1 - 1))
      | none, digits =>
          Octets.unlines (lines.drop (lines.length - (Octets.nat? digits).getD 0))
    let cut := (options.has 'c') || isWhole || text.isEmpty
    (⟨if cut then text else text.dropLast, []⟩ : Source)
  match options.unknown with
  | some c => invalidOption call 1 c
  | none =>
      eachFile call 1 cannotOpen (fun file source => withHeader several file (filter source))
        (operandsOrInput options.operands)

/-- The number of words between white space. -/
def wordCount
    (text : Octets) :
    Nat :=
  let isSpace := fun (c : Char) => c = ' ' || ('\t' ≤ c && c ≤ '\r')
  let starts := (('\n' :: text).zip text).filter fun (before, c) => isSpace before && !isSpace c
  starts.length

/-- A number behind blanks up to a width. -/
def padded
    (width value : Nat) :
    Octets :=
  let digits := Octets.ofNat value
  List.replicate (width - digits.length) ' ' ++ digits

/-- Count lines, words and bytes. -/
def wc
    (call : ToolCall) :
    ToolResult :=
  let options := options call "lwcm" ""
  let chosen := fun (flag : Char) =>
    options.has flag || (options.flags.isEmpty && flag ≠ 'm')
  let files := operandsOrInput options.operands
  let contents := files.filterMap fun file => (contentOf call file).toOption
  let counts := fun (text : Octets) =>
    (if chosen 'l' then [text.count '\n'] else []) ++
      (if chosen 'w' then [wordCount text] else []) ++
      (if chosen 'm' then [text.length] else []) ++
      (if chosen 'c' then [text.length] else [])
  let columns := (counts []).length
  let total := (contents.map fun source => source.text.length).foldr (· + ·) 0
  let width :=
    if columns = 1 ∧ files.length = 1 then 1
    else if files.contains ['-'] then 7
    else (Octets.ofNat total).length
  let line := fun (numbers : List Nat) (name : Octets) =>
    Octets.join [' '] (numbers.map (padded width)) ++ name ++ ['\n']
  let sums :=
    (contents.map fun source => counts source.text).foldl
      (fun totals numbers => totals.zipWith (· + ·) numbers) (counts [])
  match options.unknown with
  | some c => invalidOption call 1 c
  | none =>
      let result :=
        eachFile call 1 (fun file fault => shown file ++ ": " ++ fault.shortText)
          (fun file source =>
            ⟨line (counts source.text)
              (if options.operands.isEmpty then [] else ' ' :: file), []⟩) files
      if 1 < files.length then
        let output := result.output.text ++ line sums " total".toList
        { result with output := ⟨output, []⟩ }
      else
        result

/-- The characters that a set of a translation writes, with ranges, classes and escapes. -/
def translationSet : (fuel : Nat) → List Char → List Char
  | 0, _ => []
  | _ + 1, [] => []
  | fuel + 1, '[' :: ':' :: rest =>
      let name := rest.takeWhile (· ≠ ':')
      match Pattern.classRanges? name with
      | some ranges =>
          (ranges.flatMap fun (low, high) =>
            (List.range (high.toNat + 1 - low.toNat)).map fun n => Char.ofNat (low.toNat + n)) ++
            translationSet fuel (rest.drop (name.length + 2))
      | none => '[' :: translationSet fuel (':' :: rest)
  | fuel + 1, '\\' :: c :: rest =>
      let escaped :=
        match c with
        | 'n' => '\n'
        | 't' => '\t'
        | 'r' => '\r'
        | '0' => '\x00'
        | c => c
      escaped :: translationSet fuel rest
  | fuel + 1, low :: '-' :: high :: rest =>
      ((List.range (high.toNat + 1 - low.toNat)).map fun n => Char.ofNat (low.toNat + n)) ++
        translationSet fuel rest
  | fuel + 1, c :: rest => c :: translationSet fuel rest

/-- Drop characters that repeat the one before and belong to a set. -/
def squeeze
    (set : List Char) :
    Option Char → List Char → List Char
  | _, [] => []
  | before, c :: rest =>
      if before = some c ∧ set.contains c then
        squeeze set before rest
      else
        c :: squeeze set (some c) rest

/-- Replace, delete or squeeze characters of the input. -/
def tr
    (call : ToolCall) :
    ToolResult :=
  let options := options call "dscC" ""
  let sets := options.operands.map fun text => translationSet (text.length + 1) text
  let inFirst := fun (c : Char) =>
    (sets.headD []).contains c != (options.has 'c' || options.has 'C')
  match options.unknown, sets with
  | some c, _ => invalidOption call 1 c
  | none, [] => missingOperand call
  | none, first :: others =>
      let second := others.headD []
      let replaced := fun (c : Char) =>
        if second.isEmpty ∨ !inFirst c then c
        else if options.has 'c' ∨ options.has 'C' then second.getLastD c
        else second.getD (first.idxOf c) (second.getLastD c)
      let text := call.input.text
      let text :=
        if options.has 'd' then text.filter fun c => !inFirst c
        else text.map replaced
      let text :=
        if options.has 's' then squeeze (if second.isEmpty then first else second) none text
        else text
      call.prints text

/-- Print a line again and again, without end. -/
def yes
    (call : ToolCall) :
    ToolResult :=
  let line := if call.arguments.isEmpty then ['y'] else Octets.join [' '] call.arguments
  { call.exits 0 with output := ⟨[], line ++ ['\n']⟩ }

/-- The sign, digits and fraction of the number at the start of a line, for comparison. -/
def leadingNumber
    (line : Octets) :
    Int :=
  let text := line.dropWhile fun c => c = ' ' || c = '\t'
  match text with
  | '-' :: digits => -(((Octets.nat? (digits.takeWhile Char.isDigit)).getD 0 : Nat) : Int)
  | digits => ((Octets.nat? (digits.takeWhile Char.isDigit)).getD 0 : Nat)

/-- Print the lines of files in order. -/
def sort
    (call : ToolCall) :
    ToolResult :=
  let options := options call "rnufsb" "tko"
  let files := operandsOrInput options.operands
  let textual := fun (a b : Octets) => decide (String.ofList a ≤ String.ofList b)
  let before := fun (a b : Octets) =>
    if options.has 'n' then
      let x := leadingNumber a
      let y := leadingNumber b
      x < y || (x = y && (options.has 'u' || textual a b))
    else
      textual a b
  let ordered := fun (a b : Octets) => if options.has 'r' then before b a else before a b
  match files.mapM fun file => (contentOf call file).mapError fun fault => (file, fault) with
  | .error (file, fault) =>
      call.complains 2 s!"cannot read: {shown file}: {fault.shortText}"
  | .ok sources =>
      let sorted := (sources.flatMap fun source => Octets.lines source.text).mergeSort ordered
      let isSame := fun (a b : Octets) => ordered a b && ordered b a
      let kept :=
        if options.has 'u' then
          sorted.foldr
            (fun line rest =>
              match rest with
              | next :: others => if isSame line next then line :: others else line :: rest
              | [] => [line])
            []
        else
          sorted
      call.prints (Octets.unlines kept)

/-- Lines that follow each other and are equal, with their number. -/
def runs : List Octets → List (Nat × Octets)
  | [] => []
  | line :: rest =>
      match runs rest with
      | (count, next) :: others =>
          if next = line then (count + 1, line) :: others else (1, line) :: (count, next) :: others
      | [] => [(1, line)]

/-- Print lines without immediate repetitions. -/
def uniq
    (call : ToolCall) :
    ToolResult :=
  let options := options call "cdu" ""
  let file := options.operands.headD ['-']
  match contentOf call file with
  | .error fault => call.complains 1 s!"{shown file}: {fault.shortText}"
  | .ok source =>
      let chosen := (runs (Octets.lines source.text)).filter fun (count, _) =>
        (!options.has 'd' || 1 < count) && (!options.has 'u' || count = 1)
      call.prints <| chosen.flatMap fun (count, line) =>
        (if options.has 'c' then padded 7 count ++ [' '] else []) ++ line ++ ['\n']

/-- The positions that a list of ranges selects among a number of them. -/
def selected
    (ranges : Octets)
    (count : Nat) :
    List Nat :=
  let parts := (splitAt ',' ranges).map fun range =>
    match splitAt '-' range with
    | [only] => (Octets.nat? only, Octets.nat? only)
    | first :: last :: _ =>
        (some ((Octets.nat? first).getD 1), some ((Octets.nat? last).getD count))
    | [] => (none, none)
  ((List.range count).map (· + 1)).filter fun place =>
    parts.any fun
      | (some first, some last) => first ≤ place && place ≤ last
      | _ => false

/-- Print chosen fields or characters of every line. -/
def cut
    (call : ToolCall) :
    ToolResult :=
  let options := options call "sn" "dfcb"
  let mark := ((options.value? 'd').bind List.head?).getD '\t'
  let cutLine := fun (chars : Octets) =>
    match options.value? 'f', (options.value? 'c').or (options.value? 'b') with
    | some ranges, _ =>
        let fields := splitAt mark chars
        if fields.length = 1 then
          if options.has 's' then none else some chars
        else
          some (Octets.join [mark] ((selected ranges fields.length).filterMap fun place =>
            fields[place - 1]?))
    | none, some ranges =>
        some ((selected ranges chars.length).filterMap fun place => chars[place - 1]?)
    | none, none => some chars
  eachFile call 1 (fun file fault => shown file ++ ": " ++ fault.shortText)
    (fun _ source => ⟨Octets.unlines ((Octets.lines source.text).filterMap cutLine), []⟩)
    (operandsOrInput options.operands)

/-- Print numbers from a first to a last one. -/
def seq
    (call : ToolCall) :
    ToolResult :=
  match call.arguments.mapM Octets.int? with
  | none => call.complains 1 "invalid floating point argument"
  | some numbers =>
      let bounds :=
        match numbers with
        | [last] => (1, 1, last)
        | [first, last] => (first, 1, last)
        | first :: step :: last :: _ => (first, step, last)
        | [] => (1, 1, 0)
      let (first, step, last) := bounds
      let count :=
        if step = 0 then 0
        else (Int.fdiv (last - first) step + 1).toNat
      call.prints <| Octets.unlines <| (List.range count).map fun (n : Nat) =>
        Octets.ofInt (first + step * n)

end Tool

end BenchmarkOrchestration.Interpreter
