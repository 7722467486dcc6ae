namespace BenchmarkOrchestration

/-!
# Numbers of 64 bits with a binary point

A finite number is the sign, a significand `m` and a power `q` of two, and stands for `m · 2 ^ q`.
It is kept as its bits, so that numbers are compared and copied without loss.  The number nearest
to a quotient is computed in exact natural arithmetic; of two equally near ones the even is taken.
-/

/-- The bits of a number with sign, eleven bits of exponent and 52 bits of fraction. -/
structure Binary64 where
  bits : UInt64
  deriving Repr, DecidableEq, Inhabited

/-- The quotient rounded to the nearest natural number; a half goes to the even neighbour. -/
def roundedQuotient
    (numerator denominator : Nat) :
    Nat :=
  let whole := numerator / denominator
  let rest := 2 * (numerator % denominator)
  if rest < denominator then whole
  else if denominator < rest then whole + 1
  else if whole % 2 = 0 then whole
  else whole + 1

namespace Binary64

/-- Whether the sign bit is set. -/
def isNegative
    (x : Binary64) :
    Bool :=
  Nat.pow 2 63 ≤ x.bits.toNat

/-- The eleven bits of the exponent. -/
def exponentField
    (x : Binary64) :
    Nat :=
  x.bits.toNat / Nat.pow 2 52 % Nat.pow 2 11

/-- The 52 bits of the fraction. -/
def fractionField
    (x : Binary64) :
    Nat :=
  x.bits.toNat % Nat.pow 2 52

/-- The integer `m` of the magnitude `m · 2 ^ q`. -/
def significand
    (x : Binary64) :
    Nat :=
  if x.exponentField = 0 then x.fractionField else Nat.pow 2 52 + x.fractionField

/-- The power `q` of the magnitude `m · 2 ^ q`. -/
def power
    (x : Binary64) :
    Int :=
  if x.exponentField = 0 then -1074 else (x.exponentField : Int) - 1075

/-- Whether the next smaller magnitude is half as far away as the next larger one. -/
def isNarrowBelow
    (x : Binary64) :
    Bool :=
  x.fractionField = 0 && 1 < x.exponentField

/-- Whether the number is a zero of either sign. -/
def isZero
    (x : Binary64) :
    Bool :=
  x.significand = 0

/-- Equal as numbers: the two zeros are one number, all others differ in some bit. -/
def sameNumber
    (x y : Binary64) :
    Bool :=
  x = y || (x.isZero && y.isZero)

/-- The same magnitude with the given sign. -/
def withSign
    (negative : Bool)
    (x : Binary64) :
    Binary64 :=
  ⟨UInt64.ofNat (x.bits.toNat % Nat.pow 2 63 + if negative then Nat.pow 2 63 else 0)⟩

/-- The bits that stand for infinity: every finite magnitude is below them. -/
def infinityBits : Nat :=
  0x7FF * Nat.pow 2 52

/-- The power of two at which a positive quotient has a significand of 53 bits. -/
def quotientPower
    (numerator denominator : Nat) :
    Int :=
  let estimate : Int := (numerator.log2 : Int) - denominator.log2
  let reached :=
    denominator * Nat.pow 2 estimate.toNat ≤ numerator * Nat.pow 2 (-estimate).toNat
  max (-1074) ((if reached then estimate else estimate - 1) - 52)

/-- The magnitude nearest to a quotient, or nothing when it is too large for a finite number. -/
def ofQuotient?
    (numerator denominator : Nat) :
    Option Binary64 :=
  if numerator = 0 then
    some ⟨0⟩
  else
    let q := quotientPower numerator denominator
    let m := roundedQuotient (numerator * Nat.pow 2 (-q).toNat) (denominator * Nat.pow 2 q.toNat)
    let bits := (q + 1074).toNat * Nat.pow 2 52 + m
    if bits < infinityBits then some ⟨UInt64.ofNat bits⟩ else none

/--
The magnitude nearest to `digits · 10 ^ exponent`, or nothing when it is too large.  Exponents far
outside the range of finite numbers are decided without computing the power.
-/
def ofDecimal?
    (digits : Nat)
    (exponent : Int) :
    Option Binary64 :=
  if digits = 0 then some ⟨0⟩
  else if 400 < exponent then none
  else if exponent < -(400 + (digits.log2 : Int)) then some ⟨0⟩
  else ofQuotient? (digits * Nat.pow 10 exponent.toNat) (Nat.pow 10 (-exponent).toNat)

end Binary64

end BenchmarkOrchestration
