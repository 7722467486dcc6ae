namespace BenchmarkOrchestration

/-!
# Identities of targets

Every target gets an identity in the database.  Where identities must be reproducible they are
numbered; otherwise they are 128 bits, of which 122 are free, in the usual form of five groups.
-/

/-- Where identities come from: drawing one changes the state of the source. -/
abbrev IdentitySource (σ : Type) := σ → String × σ

namespace Identity

/-- Identities by number; the state counts how many were drawn. -/
def numbered : IdentitySource UInt64 :=
  fun drawn => (s!"item-{drawn + 1}", drawn + 1)

/-- The hexadecimal digits of a number, the most significant first. -/
def hexDigits : (count : Nat) → (value : Nat) → List Char
  | 0, _ => []
  | count + 1, value =>
      let digit := value % 16
      hexDigits count (value / 16) ++
        [Char.ofNat (if digit < 10 then '0'.toNat + digit else 'a'.toNat + (digit - 10))]

/-- A random identity from two words: the version and the variant take six of their bits. -/
def ofWords
    (high low : UInt64) :
    String :=
  let high := high.toNat / Nat.pow 2 16 * Nat.pow 2 16 + 0x4000 + high.toNat % Nat.pow 2 12
  let low := Nat.pow 2 63 + low.toNat % Nat.pow 2 62
  String.ofList <|
    hexDigits 8 (high / Nat.pow 2 32) ++ '-' :: hexDigits 4 (high / Nat.pow 2 16) ++ '-' ::
      hexDigits 4 high ++ '-' :: hexDigits 4 (low / Nat.pow 2 48) ++ '-' :: hexDigits 12 low

/-- Identities at random; the state is a generator of random numbers. -/
def random : IdentitySource StdGen :=
  fun generator =>
    let (high, generator) := randNat generator 0 (Nat.pow 2 64 - 1)
    let (low, generator) := randNat generator 0 (Nat.pow 2 64 - 1)
    (ofWords (UInt64.ofNat high) (UInt64.ofNat low), generator)

/-- Whether a text has the form of a random identity. -/
def hasRandomForm
    (text : String) :
    Bool :=
  let chars := text.toList
  let isHex := fun (c : Char) => c.isDigit || ('a' ≤ c && c ≤ 'f')
  chars.length = 36 &&
    (chars.zipIdx.all fun (c, place) =>
      if place ∈ [8, 13, 18, 23] then c = '-'
      else if place = 14 then c = '4'
      else if place = 19 then c ∈ ['8', '9', 'a', 'b']
      else isHex c)

end Identity

end BenchmarkOrchestration
