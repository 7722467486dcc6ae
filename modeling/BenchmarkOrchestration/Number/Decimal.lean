import BenchmarkOrchestration.Number.Binary64

namespace BenchmarkOrchestration

/-!
# Decimal texts of binary numbers

A number is written with the fewest digits that read back to it.  The reals that round to
`m · 2 ^ q` form an interval, whose ends belong to it exactly when `m` is even.  The search asks
for one digit, two digits and so on whether a neighbour of the number on that decimal grid lies in
the interval, and takes the nearer of two.
-/

/-- The natural number `digits · 10 ^ exponent`, where the exponent may be negative. -/
structure Decimal where
  digits : Nat
  exponent : Int
  deriving Repr, DecidableEq

namespace Decimal

/-- Compare `digits · 10 ^ exponent` with `m · 2 ^ q` exactly. -/
def compareBinary
    (d : Decimal)
    (m : Nat)
    (q : Int) :
    Ordering :=
  compare
    (d.digits * Nat.pow 10 d.exponent.toNat * Nat.pow 2 (-q).toNat)
    (m * Nat.pow 2 q.toNat * Nat.pow 10 (-d.exponent).toNat)

/-- Whether the decimal lies in the interval of reals that round to the magnitude of `x`. -/
def readsBack
    (x : Binary64)
    (d : Decimal) :
    Bool :=
  let lower := 4 * x.significand - if x.isNarrowBelow then 1 else 2
  let upper := 4 * x.significand + 2
  let closed := x.significand % 2 == 0
  let fromLower := d.compareBinary lower (x.power - 2)
  let fromUpper := d.compareBinary upper (x.power - 2)
  (fromLower == .gt || (closed && fromLower == .eq)) &&
    (fromUpper == .lt || (closed && fromUpper == .eq))

/-- The largest point of the grid `10 ^ exponent` that is not above the magnitude of `x`. -/
def floorOnGrid
    (x : Binary64)
    (exponent : Int) :
    Nat :=
  (x.significand * Nat.pow 2 x.power.toNat * Nat.pow 10 (-exponent).toNat) /
    (Nat.pow 2 (-x.power).toNat * Nat.pow 10 exponent.toNat)

/-- The neighbour of `x` on the grid that reads back; of two the nearer, and the even on a tie. -/
def onGrid?
    (x : Binary64)
    (exponent : Int) :
    Option Decimal :=
  let below : Decimal := ⟨floorOnGrid x exponent, exponent⟩
  let above : Decimal := ⟨below.digits + 1, exponent⟩
  let middle : Decimal := ⟨below.digits + above.digits, exponent⟩
  match readsBack x below, readsBack x above with
  | true, false =>
      some below
  | false, true =>
      some above
  | false, false =>
      none
  | true, true =>
      match middle.compareBinary (2 * x.significand) x.power with
      | .gt => some below
      | .lt => some above
      | .eq => some (if below.digits % 2 = 0 then below else above)

/-- The exponent of ten of the first digit of a positive magnitude. -/
def leadingExponent
    (x : Binary64) :
    Int :=
  let estimate : Int := ((x.significand.log2 : Int) + x.power) * 30103 / 100000
  let candidates := [estimate + 2, estimate + 1, estimate, estimate - 1]
  let reached := fun (e : Int) => (⟨1, e⟩ : Decimal).compareBinary x.significand x.power != .gt
  (candidates.find? reached).getD (estimate - 2)

/-- The same decimal without zeros at the end of its digits. -/
def stripped : (fuel : Nat) → Decimal → Decimal
  | 0, d => d
  | fuel + 1, d =>
      if d.digits ≠ 0 ∧ d.digits % 10 = 0 then
        stripped fuel ⟨d.digits / 10, d.exponent + 1⟩
      else
        d

/-- The magnitude itself, which every finite number has as a decimal. -/
def exact
    (x : Binary64) :
    Decimal :=
  ⟨x.significand * Nat.pow 2 x.power.toNat * Nat.pow 5 (-x.power).toNat, min 0 x.power⟩

/-- The decimal with the fewest digits that reads back to the magnitude of `x`. -/
def shortest
    (x : Binary64) :
    Decimal :=
  let lead := leadingExponent x
  let found := (List.range 17).findSome? fun (n : Nat) => onGrid? x (lead - n)
  let d := found.getD (exact x)
  stripped (toString d.digits).length d

end Decimal

/-- `count` zeros. -/
def zeroDigits
    (count : Nat) :
    String :=
  String.ofList (List.replicate count '0')

namespace Binary64

/--
The text of a number in a document.  The fewest digits that read back are written positionally,
always with a fraction, when the first digit has an exponent from -5 to 15, and otherwise with an
exponent, whose sign is written in either direction.
-/
def text
    (x : Binary64) :
    String :=
  let sign := if x.isNegative then "-" else ""
  if x.isZero then
    sign ++ "0.0"
  else
    let d := Decimal.shortest x
    let digits := toString d.digits
    let lead := d.exponent + digits.length - 1
    let chars := digits.toList
    sign ++
      if -5 ≤ lead ∧ lead < 0 then
        "0." ++ zeroDigits (-lead - 1).toNat ++ digits
      else if 0 ≤ lead ∧ lead ≤ 15 then
        let whole := lead.toNat + 1
        if digits.length ≤ whole then
          digits ++ zeroDigits (whole - digits.length) ++ ".0"
        else
          String.ofList (chars.take whole) ++ "." ++ String.ofList (chars.drop whole)
      else
        let fraction := chars.drop 1
        String.ofList (chars.take 1) ++
          (if fraction.isEmpty then "" else "." ++ String.ofList fraction) ++
          (if 0 < lead then "e+" else "e") ++ toString lead

/-- The text of a number with exactly `places` digits after the point; a half goes to even. -/
def fixedText
    (places : Nat)
    (x : Binary64) :
    String :=
  let scaled :=
    roundedQuotient
      (x.significand * Nat.pow 2 x.power.toNat * Nat.pow 10 places)
      (Nat.pow 2 (-x.power).toNat)
  let digits := toString scaled
  let padded := (zeroDigits (places + 1 - digits.length) ++ digits).toList
  (if x.isNegative then "-" else "") ++
    String.ofList (padded.take (padded.length - places)) ++ "." ++
    String.ofList (padded.drop (padded.length - places))

end Binary64

end BenchmarkOrchestration
