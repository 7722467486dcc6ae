namespace BenchmarkOrchestration.Utf8

/-!
# Reading bytes as text

Configuration and selection files must be well-formed UTF-8, and `decode?` refuses any other
content.  Output of a process is shown in any case: `decodeLossy` writes one replacement character
for every maximal run of bytes that begins a character and does not finish it, and one for every
byte that begins none.
-/

/-- The continuation bytes that a character still needs, with the range that the next must be in. -/
structure Pending where
  owed : Nat
  low : Nat
  high : Nat
  scalar : Nat
  deriving Repr, DecidableEq

/-- What the first byte of a character announces. -/
inductive Opening where
  | scalar (value : Nat)
  | lead (pending : Pending)
  | stray
  deriving Repr, DecidableEq

/-- The reading of a byte that stands between characters. -/
def Opening.ofByte
    (byte : Nat) :
    Opening :=
  if byte ≤ 0x7F then .scalar byte
  else if 0xC2 ≤ byte ∧ byte ≤ 0xDF then .lead ⟨1, 0x80, 0xBF, byte - 0xC0⟩
  else if byte = 0xE0 then .lead ⟨2, 0xA0, 0xBF, 0⟩
  else if byte = 0xED then .lead ⟨2, 0x80, 0x9F, 0xD⟩
  else if 0xE1 ≤ byte ∧ byte ≤ 0xEF then .lead ⟨2, 0x80, 0xBF, byte - 0xE0⟩
  else if byte = 0xF0 then .lead ⟨3, 0x90, 0xBF, 0⟩
  else if 0xF1 ≤ byte ∧ byte ≤ 0xF3 then .lead ⟨3, 0x80, 0xBF, byte - 0xF0⟩
  else if byte = 0xF4 then .lead ⟨3, 0x80, 0x8F, 4⟩
  else .stray

/-- The character that is shown in place of bytes that are no text. -/
def replacement : Char :=
  '\uFFFD'

/-- A byte that stands between characters: the characters it completes, and what it leaves open. -/
def openByte
    (byte : UInt8) :
    List Char × Option Pending :=
  match Opening.ofByte byte.toNat with
  | .scalar value => ([Char.ofNat value], none)
  | .lead pending => ([], some pending)
  | .stray => ([replacement], none)

/--
One byte, between characters or inside one.  A byte that does not continue the character it stands
in ends that character with a replacement and is then read as standing between characters.
-/
def step
    (state : Option Pending)
    (byte : UInt8) :
    List Char × Option Pending :=
  match state with
  | none => openByte byte
  | some pending =>
      if pending.low ≤ byte.toNat ∧ byte.toNat ≤ pending.high then
        let scalar := pending.scalar * 64 + (byte.toNat - 0x80)
        if pending.owed ≤ 1 then
          ([Char.ofNat scalar], none)
        else
          ([], some ⟨pending.owed - 1, 0x80, 0xBF, scalar⟩)
      else
        let (shown, next) := openByte byte
        (replacement :: shown, next)

/-- All characters of the bytes, with a replacement for a character that the end cuts short. -/
def decodeFrom : Option Pending → List UInt8 → List Char
  | none, [] => []
  | some _, [] => [replacement]
  | state, byte :: rest =>
      let (shown, next) := step state byte
      shown ++ decodeFrom next rest

/-- The text that the bytes are, when they are well-formed. -/
def decode?
    (bytes : ByteArray) :
    Option String :=
  String.fromUTF8? bytes

/-- The text of the bytes, with replacement characters where they are no text. -/
def decodeLossy
    (bytes : ByteArray) :
    String :=
  match decode? bytes with
  | some text => text
  | none => String.ofList (decodeFrom none bytes.toList)

end BenchmarkOrchestration.Utf8
