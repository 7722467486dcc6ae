import BenchmarkOrchestration.Json.Value

namespace BenchmarkOrchestration.Json

/-!
# Reading documents

The reader accepts exactly one value, with blanks around it.  Blanks are space, tab, line feed and
carriage return.  Arrays and objects may be nested 127 deep.  An integer that fits into 64 bits,
with or without a sign, stays an integer; any other number is the nearest binary number, and a
number too large for one is refused.  Of a key that is repeated the last value counts, at the
place of the first.

`Reader.document` keeps repeated keys, for readers that refuse them; `read?` resolves them.
-/

namespace Reader

/-- Skip the blanks that may stand between two tokens. -/
def skipBlanks : List Char → List Char
  | [] => []
  | c :: rest =>
      if c = ' ' ∨ c = '\t' ∨ c = '\n' ∨ c = '\r' then skipBlanks rest else c :: rest

/-- The digits at the start of the text, and what follows them. -/
def digits
    (text : List Char) :
    List Char × List Char :=
  text.span Char.isDigit

/-- The natural number that decimal digits write. -/
def natOfDigits
    (ds : List Char) :
    Nat :=
  ds.foldl (fun value d => value * 10 + (d.toNat - '0'.toNat)) 0

/-- The value of a hexadecimal digit. -/
def hexValue?
    (c : Char) :
    Option Nat :=
  if c.isDigit then some (c.toNat - '0'.toNat)
  else if 'a' ≤ c ∧ c ≤ 'f' then some (c.toNat - 'a'.toNat + 10)
  else if 'A' ≤ c ∧ c ≤ 'F' then some (c.toNat - 'A'.toNat + 10)
  else none

/-- Four hexadecimal digits. -/
def fourHex? : List Char → Option (Nat × List Char)
  | a :: b :: c :: d :: rest => do
      let a ← hexValue? a
      let b ← hexValue? b
      let c ← hexValue? c
      let d ← hexValue? d
      some (((a * 16 + b) * 16 + c) * 16 + d, rest)
  | _ => none

/-- The character of an escape that has one letter. -/
def shortEscape?
    (c : Char) :
    Option Char :=
  match c with
  | '"' => some '"'
  | '\\' => some '\\'
  | '/' => some '/'
  | 'b' => some '\x08'
  | 'f' => some '\x0c'
  | 'n' => some '\n'
  | 'r' => some '\r'
  | 't' => some '\t'
  | _ => none

/--
The character of an escape by number.  A character beyond the first 65536 takes two escapes, and
half of such a pair alone is refused.
-/
def numberedEscape?
    (text : List Char) :
    Option (Char × List Char) := do
  let (first, rest) ← fourHex? text
  if first < 0xD800 ∨ 0xDFFF < first then
    some (Char.ofNat first, rest)
  else if 0xDBFF < first then
    none
  else
    match rest with
    | '\\' :: 'u' :: rest =>
        let (second, rest) ← fourHex? rest
        if second < 0xDC00 ∨ 0xDFFF < second then
          none
        else
          some (Char.ofNat (0x10000 + (first - 0xD800) * 0x400 + (second - 0xDC00)), rest)
    | _ => none

/-- The characters of a text up to its closing quote, and what follows the quote. -/
def textBody : (fuel : Nat) → List Char → Option (List Char × List Char)
  | 0, _ => none
  | _ + 1, [] => none
  | _ + 1, '"' :: rest => some ([], rest)
  | fuel + 1, '\\' :: 'u' :: rest => do
      let (c, rest) ← numberedEscape? rest
      let (body, rest) ← textBody fuel rest
      some (c :: body, rest)
  | fuel + 1, '\\' :: escape :: rest => do
      let c ← shortEscape? escape
      let (body, rest) ← textBody fuel rest
      some (c :: body, rest)
  | fuel + 1, c :: rest =>
      if c.toNat < 0x20 ∨ c = '\\' then
        none
      else do
        let (body, rest) ← textBody fuel rest
        some (c :: body, rest)

/-- The parts of a number: sign, digits of the whole part, and digits of fraction and exponent. -/
structure NumberParts where
  negative : Bool
  whole : List Char
  fraction : Option (List Char)
  exponent : Option Int
  deriving Repr, DecidableEq

/-- The whole part of a number: a zero alone, or digits that begin with another digit. -/
def wholePart? : List Char → Option (List Char × List Char)
  | '0' :: rest =>
      match rest with
      | c :: _ => if c.isDigit then none else some (['0'], rest)
      | [] => some (['0'], rest)
  | text =>
      match digits text with
      | ([], _) => none
      | (ds, rest) => some (ds, rest)

/-- The fraction of a number, when a point stands next; the point needs a digit after it. -/
def fractionPart? : List Char → Option (Option (List Char) × List Char)
  | '.' :: rest =>
      match digits rest with
      | ([], _) => none
      | (ds, rest) => some (some ds, rest)
  | text => some (none, text)

/-- The exponent of a number, when its mark stands next; the mark needs a digit after it. -/
def exponentPart? : List Char → Option (Option Int × List Char)
  | c :: rest =>
      if c = 'e' ∨ c = 'E' then
        let (negative, rest) :=
          match rest with
          | '-' :: rest => (true, rest)
          | '+' :: rest => (false, rest)
          | _ => (false, rest)
        match digits rest with
        | ([], _) => none
        | (ds, rest) =>
            let size : Int := natOfDigits ds
            some (some (if negative then -size else size), rest)
      else
        some (none, c :: rest)
  | [] => some (none, [])

/-- The parts of the number at the start of the text. -/
def numberParts?
    (text : List Char) :
    Option (NumberParts × List Char) := do
  let (negative, text) :=
    match text with
    | '-' :: rest => (true, rest)
    | _ => (false, text)
  let (whole, text) ← wholePart? text
  let (fraction, text) ← fractionPart? text
  let (exponent, text) ← exponentPart? text
  some (⟨negative, whole, fraction, exponent⟩, text)

/-- The binary number nearest to the number that the parts write. -/
def NumberParts.binary?
    (parts : NumberParts) :
    Option Binary64 :=
  let fraction := parts.fraction.getD []
  let exponent := parts.exponent.getD 0 - fraction.length
  (Binary64.ofDecimal? (natOfDigits (parts.whole ++ fraction)) exponent).map
    (Binary64.withSign parts.negative)

/-- The number that the parts write. -/
def NumberParts.number?
    (parts : NumberParts) :
    Option Number :=
  let size := natOfDigits parts.whole
  let isWhole := parts.fraction.isNone && parts.exponent.isNone
  if isWhole && !parts.negative && size < Nat.pow 2 64 then
    some (.integer size)
  else if isWhole && parts.negative && 0 < size && size ≤ Nat.pow 2 63 then
    some (.integer (-size))
  else
    parts.binary?.map Number.binary

/-- The text after a word that must stand next. -/
def word? : (word text : List Char) → Option (List Char)
  | [], text => some text
  | _ :: _, [] => none
  | a :: word, b :: text => if a = b then word? word text else none

mutual

/--
The value at the start of the text.  `depth` is the number of arrays and objects that may still be
opened, and `fuel` bounds the number of steps by the length of the text.
-/
def value : (fuel depth : Nat) → List Char → Option (Value × List Char)
  | 0, _, _ => none
  | fuel + 1, depth, text =>
      match skipBlanks text with
      | '[' :: rest =>
          match depth with
          | 0 => none
          | depth + 1 =>
              match skipBlanks rest with
              | ']' :: rest => some (.array [], rest)
              | _ => do
                  let (elements, rest) ← elements fuel depth rest
                  some (.array elements, rest)
      | '{' :: rest =>
          match depth with
          | 0 => none
          | depth + 1 =>
              match skipBlanks rest with
              | '}' :: rest => some (.object [], rest)
              | _ => do
                  let (fields, rest) ← fields fuel depth rest
                  some (.object fields, rest)
      | '"' :: rest => do
          let (body, rest) ← textBody rest.length.succ rest
          some (.text (String.ofList body), rest)
      | 'n' :: rest => do
          let rest ← word? ['u', 'l', 'l'] rest
          some (.null, rest)
      | 't' :: rest => do
          let rest ← word? ['r', 'u', 'e'] rest
          some (.boolean true, rest)
      | 'f' :: rest => do
          let rest ← word? ['a', 'l', 's', 'e'] rest
          some (.boolean false, rest)
      | text => do
          let (parts, rest) ← numberParts? text
          let number ← parts.number?
          some (.number number, rest)

/-- The elements of an array that has at least one, and the text after its bracket. -/
def elements : (fuel depth : Nat) → List Char → Option (List Value × List Char)
  | 0, _, _ => none
  | fuel + 1, depth, text => do
      let (first, rest) ← value fuel depth text
      match skipBlanks rest with
      | ']' :: rest => some ([first], rest)
      | ',' :: rest => do
          let (others, rest) ← elements fuel depth rest
          some (first :: others, rest)
      | _ => none

/-- The fields of an object that has at least one, and the text after its brace. -/
def fields : (fuel depth : Nat) → List Char → Option (List (String × Value) × List Char)
  | 0, _, _ => none
  | fuel + 1, depth, text =>
      match skipBlanks text with
      | '"' :: rest => do
          let (key, rest) ← textBody rest.length.succ rest
          match skipBlanks rest with
          | ':' :: rest => do
              let (first, rest) ← value fuel depth rest
              let field := (String.ofList key, first)
              match skipBlanks rest with
              | '}' :: rest => some ([field], rest)
              | ',' :: rest => do
                  let (others, rest) ← fields fuel depth rest
                  some (field :: others, rest)
              | _ => none
          | _ => none
      | _ => none

end

/-- How deep arrays and objects may be nested. -/
def maxDepth : Nat := 127

/-- The one value of a text, with repeated keys as they stand. -/
def document
    (text : String) :
    Option Value := do
  let chars := text.toList
  let (result, rest) ← value (2 * chars.length + 2) maxDepth chars
  match skipBlanks rest with
  | [] => some result
  | _ => none

end Reader

namespace Value

mutual

/-- The same tree in which every key of an object stands once. -/
def resolveKeys : Value → Value
  | .array elements => .array (resolveElements elements)
  | .object fields => .object (resolveFields fields [])
  | other => other

/-- The elements of an array, each with its keys resolved. -/
def resolveElements : List Value → List Value
  | [] => []
  | x :: rest => resolveKeys x :: resolveElements rest

/-- Put the fields one after the other into the object `done`. -/
def resolveFields : List (String × Value) → List (String × Value) → List (String × Value)
  | [], done => done
  | (key, x) :: rest, done => resolveFields rest (putField done key (resolveKeys x))

end

end Value

/-- Read a document, or nothing when the text is none. -/
def read?
    (text : String) :
    Option Value :=
  (Reader.document text).map Value.resolveKeys

end BenchmarkOrchestration.Json
