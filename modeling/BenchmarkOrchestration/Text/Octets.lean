import BenchmarkOrchestration.Text.Utf8

namespace BenchmarkOrchestration

/-!
# Texts of bytes

The command interpreter works on bytes, whatever they encode.  A text of bytes has one character
per byte, the one whose number is the value of the byte; so characters of ASCII stand for
themselves, and texts of bytes can be taken apart as lists of characters.
-/

/-- A text with one character per byte. -/
abbrev Octets := List Char

namespace Octets

/-- The bytes of a text in UTF-8. -/
def ofText
    (text : String) :
    Octets :=
  text.toUTF8.toList.map fun byte => Char.ofNat byte.toNat

/-- The bytes of a file. -/
def ofBytes
    (bytes : ByteArray) :
    Octets :=
  bytes.toList.map fun byte => Char.ofNat byte.toNat

/-- The bytes as the content of a file. -/
def toBytes
    (octets : Octets) :
    ByteArray :=
  ⟨(octets.map fun c => UInt8.ofNat c.toNat).toArray⟩

/-- The text that the bytes encode, with replacements where they encode none. -/
def toText
    (octets : Octets) :
    String :=
  Utf8.decodeLossy (toBytes octets)

/-- The lines of a text, without their ends; a last line may be unfinished. -/
def lines : Octets → List Octets
  | [] => []
  | c :: rest =>
      if c = '\n' then
        [] :: lines rest
      else
        match lines rest with
        | first :: others => (c :: first) :: others
        | [] => [[c]]

/-- The texts with a line end after each. -/
def unlines
    (lines : List Octets) :
    Octets :=
  lines.flatMap (· ++ ['\n'])

/-- Texts with a separator between them. -/
def join
    (separator : Octets) :
    List Octets → Octets
  | [] => []
  | [last] => last
  | first :: rest => first ++ separator ++ join separator rest

/-- The decimal text of a number. -/
def ofNat
    (value : Nat) :
    Octets :=
  (toString value).toList

/-- The decimal text of an integer. -/
def ofInt
    (value : Int) :
    Octets :=
  (toString value).toList

/-- The natural number that decimal digits write, when there is nothing else. -/
def nat?
    (text : Octets) :
    Option Nat :=
  if text.isEmpty ∨ !text.all Char.isDigit then none
  else some (text.foldl (fun value c => value * 10 + (c.toNat - '0'.toNat)) 0)

/-- The integer that a text writes with an optional sign. -/
def int? : Octets → Option Int
  | '-' :: digits => (nat? digits).map fun value => -(value : Int)
  | '+' :: digits => (nat? digits).map Int.ofNat
  | digits => (nat? digits).map Int.ofNat

end Octets

end BenchmarkOrchestration
