import BenchmarkOrchestration.Json.Value
import BenchmarkOrchestration.Number.Decimal

namespace BenchmarkOrchestration.Json

/-!
# Writing documents

There are two forms.  The compact form has no blanks at all.  The indented form gives every element
and every field a line of its own, two blanks deeper than the bracket around it; an array or object
without content stays on one line.  Characters are escaped only where a text could not hold them.
-/

/-- The hexadecimal digit of a value below 16. -/
def hexDigit
    (value : Nat) :
    Char :=
  Char.ofNat (if value < 10 then '0'.toNat + value else 'a'.toNat + (value - 10))

/-- The characters that write one character inside a text. -/
def escapedChar
    (c : Char) :
    List Char :=
  match c with
  | '"' => ['\\', '"']
  | '\\' => ['\\', '\\']
  | '\x08' => ['\\', 'b']
  | '\x0c' => ['\\', 'f']
  | '\n' => ['\\', 'n']
  | '\r' => ['\\', 'r']
  | '\t' => ['\\', 't']
  | c =>
      if c.toNat < 0x20 then
        ['\\', 'u', '0', '0', hexDigit (c.toNat / 16), hexDigit (c.toNat % 16)]
      else
        [c]

/-- A text between quotes. -/
def quoted
    (text : String) :
    String :=
  String.ofList ('"' :: text.toList.flatMap escapedChar ++ ['"'])

namespace Number

/-- The text of a number. -/
def render : Number → String
  | .integer value => toString value
  | .binary value => value.text

end Number

/-- The brackets of an array around its elements. -/
def bracketed
    (content : String) :
    String :=
  "[" ++ content ++ "]"

/-- The braces of an object around its fields. -/
def braced
    (content : String) :
    String :=
  "\x7b" ++ content ++ "\x7d"

namespace Value

mutual

/-- The compact form of a value. -/
def render : Value → String
  | .null => "null"
  | .boolean true => "true"
  | .boolean false => "false"
  | .number value => value.render
  | .text value => quoted value
  | .array elements => bracketed (",".intercalate (renderElements elements))
  | .object fields => braced (",".intercalate (renderFields fields))

/-- The compact forms of the elements of an array. -/
def renderElements : List Value → List String
  | [] => []
  | x :: rest => render x :: renderElements rest

/-- The compact forms of the fields of an object. -/
def renderFields : List (String × Value) → List String
  | [] => []
  | (key, x) :: rest => (quoted key ++ ":" ++ render x) :: renderFields rest

end

/-- The blanks at the start of a line inside `depth` brackets. -/
def indentation
    (depth : Nat) :
    String :=
  String.ofList (List.replicate (2 * depth) ' ')

/-- Lines inside a bracket at `depth`, with the closing bracket on a line of its own. -/
def indentedBlock
    (depth : Nat)
    (lines : List String) :
    String :=
  match lines with
  | [] => ""
  | _ =>
      "\n" ++ ",\n".intercalate (lines.map (indentation (depth + 1) ++ ·)) ++
        "\n" ++ indentation depth

mutual

/-- The indented form of a value that stands inside `depth` brackets. -/
def renderIndented : (depth : Nat) → Value → String
  | depth, .array elements =>
      bracketed (indentedBlock depth (indentedElements (depth + 1) elements))
  | depth, .object fields =>
      braced (indentedBlock depth (indentedFields (depth + 1) fields))
  | _, .null => "null"
  | _, .boolean true => "true"
  | _, .boolean false => "false"
  | _, .number value => value.render
  | _, .text value => quoted value

/-- The indented forms of the elements of an array. -/
def indentedElements : (depth : Nat) → List Value → List String
  | _, [] => []
  | depth, x :: rest => renderIndented depth x :: indentedElements depth rest

/-- The indented forms of the fields of an object. -/
def indentedFields : (depth : Nat) → List (String × Value) → List String
  | _, [] => []
  | depth, (key, x) :: rest =>
      (quoted key ++ ": " ++ renderIndented depth x) :: indentedFields depth rest

end

end Value

end BenchmarkOrchestration.Json
