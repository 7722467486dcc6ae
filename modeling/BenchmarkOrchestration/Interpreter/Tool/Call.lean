import BenchmarkOrchestration.Files.Tree
import BenchmarkOrchestration.Text.Octets

namespace BenchmarkOrchestration.Interpreter

/-!
# Calls of tools

Tools are the programs of the system that scripts call by name.  A tool gets its arguments, the
text on its input and the files, and answers with what it prints, its status and the files after
it.  A text can be endless: then a period follows it again and again.
-/

/-- A text on an input or output, followed by a period that repeats without end if there is one. -/
structure Source where
  text : Octets
  period : Octets
  deriving Repr, DecidableEq

namespace Source

/-- The text without anything. -/
def empty : Source :=
  ⟨[], []⟩

/-- A text with another one after it, which never comes if the first has no end. -/
def append
    (source other : Source) :
    Source :=
  if source.period.isEmpty then
    ⟨source.text ++ other.text, other.period⟩
  else
    source

/-- The first lines of a text; periods are unrolled as often as lines are missing. -/
def firstLines
    (source : Source)
    (count : Nat) :
    Octets :=
  let missing := count - source.text.count '\n'
  let unrolled := source.text ++ (List.replicate missing source.period).flatten
  let lines := (Octets.lines unrolled).take count
  let whole := Octets.unlines lines
  whole.take unrolled.length

/-- The first bytes of a text. -/
def firstBytes
    (source : Source)
    (count : Nat) :
    Octets :=
  let missing := count - source.text.length
  (source.text ++ (List.replicate missing source.period).flatten).take count

end Source

/-- A call of a tool.  Its messages begin with the speaker, which need not be its name. -/
structure ToolCall where
  name : Octets
  speaker : Octets
  arguments : List Octets
  input : Source
  environment : List (Octets × Octets)
  tree : FileTree
  here : Location

/-- What a tool leaves behind. -/
structure ToolResult where
  output : Source
  stderr : Octets
  status : Nat
  input : Source
  tree : FileTree

namespace ToolCall

/-- A result that prints a text and leaves the files alone. -/
def prints
    (call : ToolCall)
    (text : Octets) :
    ToolResult :=
  ⟨⟨text, []⟩, [], 0, call.input, call.tree⟩

/-- A result that only has a status. -/
def exits
    (call : ToolCall)
    (status : Nat) :
    ToolResult :=
  ⟨.empty, [], status, call.input, call.tree⟩

/-- A message of a tool, on a line of its own behind the speaker. -/
def complaint
    (call : ToolCall)
    (text : String) :
    Octets :=
  call.speaker ++ Octets.ofText (": " ++ text ++ "\n")

/-- A result that only has a message. -/
def complains
    (call : ToolCall)
    (status : Nat)
    (text : String) :
    ToolResult :=
  ⟨.empty, call.complaint text, status, call.input, call.tree⟩

end ToolCall

namespace Tool

/-- A text between single quotes. -/
def quoted
    (text : Octets) :
    String :=
  "'" ++ Octets.toText text ++ "'"

/-- A file name in a message: quoted only where blanks or marks would be misread. -/
def shown
    (text : Octets) :
    String :=
  let isHarmless := fun (c : Char) =>
    c.isAlphanum || c ∈ ['/', '.', '_', '-', '+', '=', '%', '@', ':', ',', '^', '~', '#']
  if !text.isEmpty ∧ text.all isHarmless then Octets.toText text else quoted text

/-- The options and operands of a call. -/
structure Options where
  flags : List (Char × Octets)
  operands : List Octets
  unknown : Option Char

namespace Options

/-- Whether an option was given. -/
def has
    (options : Options)
    (flag : Char) :
    Bool :=
  options.flags.any fun (c, _) => c = flag

/-- The value of the last option of a letter. -/
def value?
    (options : Options)
    (flag : Char) :
    Option Octets :=
  (options.flags.filter fun (c, _) => c = flag).getLast?.map Prod.snd

/-- The options in one argument after its dash; a letter with a value takes the rest. -/
def cluster
    (bare valued : List Char) :
    List Char → (more : List Octets) → Options × List Octets
  | [], more => (⟨[], [], none⟩, more)
  | c :: rest, more =>
      if valued.contains c then
        match rest, more with
        | [], value :: more => (⟨[(c, value)], [], none⟩, more)
        | [], [] => (⟨[], [], some c⟩, [])
        | value, more => (⟨[(c, value)], [], none⟩, more)
      else if bare.contains c then
        let (others, more) := cluster bare valued rest more
        (⟨(c, []) :: others.flags, [], others.unknown⟩, more)
      else
        (⟨[], [], some c⟩, more)

/-- Read options with and without values; operands may stand between them. -/
def read
    (bare valued : List Char) :
    (fuel : Nat) → List Octets → Options
  | 0, operands => ⟨[], operands, none⟩
  | _ + 1, [] => ⟨[], [], none⟩
  | _ + 1, ['-', '-'] :: operands => ⟨[], operands, none⟩
  | fuel + 1, ('-' :: c :: letters) :: more =>
      let (found, more) := cluster bare valued (c :: letters) more
      let others := read bare valued fuel more
      ⟨found.flags ++ others.flags, others.operands, found.unknown.or others.unknown⟩
  | fuel + 1, operand :: more =>
      let others := read bare valued fuel more
      ⟨others.flags, operand :: others.operands, others.unknown⟩

end Options

/-- The options of a call. -/
def options
    (call : ToolCall)
    (bare valued : String) :
    Options :=
  Options.read bare.toList valued.toList (call.arguments.length + 1) call.arguments

/-- The message for an option that a tool does not have. -/
def invalidOption
    (call : ToolCall)
    (status : Nat)
    (c : Char) :
    ToolResult :=
  let name := Octets.toText call.name
  ⟨.empty,
    Octets.ofText
      (s!"{name}: invalid option -- '{c}'\nTry '{name} --help' for more information.\n"),
    status, call.input, call.tree⟩

/-- The message for a call without an operand. -/
def missingOperand
    (call : ToolCall) :
    ToolResult :=
  let name := Octets.toText call.name
  ⟨.empty,
    Octets.ofText (s!"{name}: missing operand\nTry '{name} --help' for more information.\n"),
    1, call.input, call.tree⟩

/-- The content of a named file, or the input for a dash. -/
def contentOf
    (call : ToolCall)
    (file : Octets) :
    Except FileFault Source :=
  if file = ['-'] then
    .ok call.input
  else
    (call.tree.read call.here (Octets.toText file)).map fun bytes => ⟨Octets.ofBytes bytes, []⟩

/-- The operands of a filter: without any it reads its input. -/
def operandsOrInput
    (operands : List Octets) :
    List Octets :=
  if operands.isEmpty then [['-']] else operands

/-- Apply a filter to every operand, with a message for each that cannot be read. -/
def eachFile
    (call : ToolCall)
    (status : Nat)
    (wording : Octets → FileFault → String)
    (filter : Octets → Source → Source) :
    List Octets → ToolResult
  | [] => call.prints []
  | file :: files =>
      let rest := eachFile call status wording filter files
      match contentOf call file with
      | .ok source =>
          let input := if file = ['-'] then .empty else rest.input
          { rest with output := (filter file source).append rest.output, input }
      | .error fault =>
          { rest with stderr := call.complaint (wording file fault) ++ rest.stderr, status }

/-- Change the files for every operand in turn, with a message where that fails. -/
def eachChange
    (status : Nat)
    (change : ToolCall → Octets → Except String FileTree) :
    List Octets → ToolCall → ToolResult
  | [], call => call.exits 0
  | file :: files, call =>
      match change call file with
      | .ok tree => eachChange status change files { call with tree }
      | .error text =>
          let rest := eachChange status change files call
          { rest with stderr := call.complaint text ++ rest.stderr, status }

end Tool

end BenchmarkOrchestration.Interpreter
