import BenchmarkOrchestration.Number.Binary64
import Mathlib.Algebra.Order.Field.Power
import Mathlib.Algebra.Order.Field.Rat
import Mathlib.Tactic.FieldSimp
import Mathlib.Tactic.Linarith
import Mathlib.Tactic.NormNum
import Mathlib.Tactic.Positivity
import Mathlib.Tactic.Ring

namespace BenchmarkOrchestration

/-!
# Rounding to the nearest number

A finite number stands for its significand times a power of two, with its sign.  A quotient is
scaled by the power of two at which its whole part has 53 bits, or by the smallest power if it is
too small for this, and is then rounded to a whole number.  No other finite number is nearer to the
quotient: those of at least this power are whole numbers on the same scale, and those of a smaller
power are farther away than the smallest whole number of 53 bits.
-/

/-- Halfway between two whole numbers the even one is taken, and otherwise the nearer one. -/
theorem roundedQuotient_cases
    (numerator : Nat)
    {denominator : Nat}
    (positive : 0 < denominator) :
    ∃ whole : Nat, ∃ fraction : ℚ,
      (numerator : ℚ) / denominator = whole + fraction ∧
        0 ≤ fraction ∧
        fraction < 1 ∧
        ((fraction < 1 / 2 ∧ roundedQuotient numerator denominator = whole) ∨
          (1 / 2 < fraction ∧ roundedQuotient numerator denominator = whole + 1) ∨
          (fraction = 1 / 2 ∧
            roundedQuotient numerator denominator % 2 = 0 ∧
            (roundedQuotient numerator denominator = whole ∨
              roundedQuotient numerator denominator = whole + 1))) := by
  have scale : (0 : ℚ) < denominator := by exact_mod_cast positive
  have split : (numerator : ℚ) =
      denominator * (numerator / denominator : Nat) + (numerator % denominator : Nat) := by
    exact_mod_cast (Nat.div_add_mod numerator denominator).symm
  have small : ((numerator % denominator : Nat) : ℚ) < denominator := by
    exact_mod_cast Nat.mod_lt numerator positive
  refine ⟨numerator / denominator, (numerator % denominator : Nat) / (denominator : ℚ), ?_, ?_, ?_,
    ?_⟩
  · rw [split]
    field_simp
  · positivity
  · rwa [div_lt_one scale]
  · rw [div_lt_div_iff₀ scale two_pos, div_lt_div_iff₀ two_pos scale, div_eq_div_iff scale.ne'
      two_ne_zero]
    norm_cast
    simp only [roundedQuotient, Nat.one_mul, Nat.mul_comm _ 2]
    split
    · exact .inl ⟨by assumption, rfl⟩
    · split
      · exact .inr (.inl ⟨by assumption, rfl⟩)
      · right
        right
        split
        · refine ⟨by omega, by assumption, .inl rfl⟩
        · refine ⟨by omega, by omega, .inr rfl⟩

/-- Whole numbers that bound a quotient bound the rounded quotient. -/
theorem roundedQuotient_bounds
    {numerator denominator : Nat}
    (positive : 0 < denominator)
    (bound : Nat) :
    ((numerator : ℚ) / denominator < bound → roundedQuotient numerator denominator ≤ bound) ∧
      ((bound : ℚ) ≤ numerator / denominator →
        bound ≤ roundedQuotient numerator denominator) := by
  obtain ⟨whole, fraction, split, nonneg, small, cases⟩ := roundedQuotient_cases numerator positive
  have taken :
      whole ≤ roundedQuotient numerator denominator ∧
        roundedQuotient numerator denominator ≤ whole + 1 := by
    omega
  rw [split]
  constructor
  · intro below
    have wholeBelow : (whole : ℚ) < bound := by linarith
    have strict : whole < bound := by exact_mod_cast wholeBelow
    omega
  · intro above
    have wholeAbove : (bound : ℚ) < whole + 1 := by linarith
    have atMost : bound < whole + 1 := by exact_mod_cast wholeAbove
    omega

/-- A whole number other than zero or one is farther from a fraction than this one. -/
theorem le_abs_sub_fraction
    (whole : Int)
    {fraction : ℚ}
    (nonneg : 0 ≤ fraction)
    (small : fraction < 1) :
    (whole ≠ 0 → 1 - fraction ≤ |(whole : ℚ) - fraction|) ∧
      (whole ≠ 1 → fraction ≤ |(whole : ℚ) - fraction|) := by
  rcases lt_or_ge whole 1 with below | above
  · have notAbove : (whole : ℚ) ≤ 0 := by exact_mod_cast Int.lt_add_one_iff.mp below
    rw [abs_of_nonpos (by linarith)]
    constructor
    · intro nonzero
      have negative : whole ≤ -1 := by omega
      have lower : (whole : ℚ) ≤ -1 := by exact_mod_cast negative
      linarith
    · intro _
      linarith
  · have notBelow : (1 : ℚ) ≤ whole := by exact_mod_cast above
    rw [abs_of_nonneg (by linarith)]
    constructor
    · intro _
      linarith
    · intro other
      have large : 2 ≤ whole := by omega
      have higher : (2 : ℚ) ≤ whole := by exact_mod_cast large
      linarith

section

variable
  {numerator denominator : Nat}
  (positive : 0 < denominator)
  (other : Int)

include positive

/--
No whole number is nearer to a quotient than the rounded quotient, and if another one is as near,
the rounded quotient is even.
-/
theorem roundedQuotient_nearest :
    |(roundedQuotient numerator denominator : ℚ) - numerator / denominator| ≤
        |(other : ℚ) - numerator / denominator| ∧
      (|(other : ℚ) - numerator / denominator| =
          |(roundedQuotient numerator denominator : ℚ) - numerator / denominator| →
        other ≠ roundedQuotient numerator denominator →
          roundedQuotient numerator denominator % 2 = 0) := by
  obtain ⟨whole, fraction, split, nonneg, small, cases⟩ := roundedQuotient_cases numerator positive
  -- Distances are measured from the whole part of the quotient.
  have fromWhole :
      |(other : ℚ) - numerator / denominator| = |((other - whole : Int) : ℚ) - fraction| := by
    rw [split]
    push_cast
    congr 1
    ring
  have distances := le_abs_sub_fraction (other - whole) nonneg small
  have atZero :
      roundedQuotient numerator denominator = whole →
        |(roundedQuotient numerator denominator : ℚ) - numerator / denominator| = fraction := by
    intro taken
    rw [taken, split, sub_add_cancel_left, abs_neg, abs_of_nonneg nonneg]
  have atOne :
      roundedQuotient numerator denominator = whole + 1 →
        |(roundedQuotient numerator denominator : ℚ) - numerator / denominator| =
          1 - fraction := by
    intro taken
    rw [taken, split, Nat.cast_succ, add_sub_add_left_eq_sub, abs_of_nonneg (by linarith)]
  rw [fromWhole]
  rcases cases with ⟨lower, taken⟩ | ⟨upper, taken⟩ | ⟨half, even, taken⟩
  · rw [atZero taken]
    constructor
    · by_cases one : other - whole = 1
      · have farther := distances.1 (by omega)
        linarith
      · exact distances.2 one
    · intro tie differ
      have farther := distances.1 (by omega)
      linarith
  · rw [atOne taken]
    constructor
    · by_cases zero : other - whole = 0
      · have farther := distances.2 (by omega)
        linarith
      · exact distances.1 zero
    · intro tie differ
      have farther := distances.2 (by omega)
      linarith
  · have distance :
        |(roundedQuotient numerator denominator : ℚ) - numerator / denominator| = fraction := by
      rcases taken with zero | one
      · exact atZero zero
      · rw [atOne one]
        linarith
    rw [distance]
    constructor
    · by_cases one : other - whole = 1
      · have farther := distances.1 (by omega)
        linarith
      · exact distances.2 one
    · intro _ _
      exact even

end

namespace Binary64

/-- Scaling both parts of a quotient by a power of two scales the quotient. -/
theorem scaled_quotient
    (numerator denominator : Nat)
    (q : Int) :
    ((numerator * Nat.pow 2 (-q).toNat : Nat) : ℚ) / (denominator * Nat.pow 2 q.toNat : Nat) *
        2 ^ q =
      numerator / denominator := by
  rcases q.eq_nat_or_neg with ⟨k, rfl | rfl⟩
  · have none : (-(k : Int)).toNat = 0 := by omega
    rw [none, Int.toNat_natCast, zpow_natCast, Nat.pow_eq, Nat.pow_eq]
    push_cast
    field_simp
  · have none : (-(k : Int)).toNat = 0 := by omega
    rw [neg_neg, none, Int.toNat_natCast, zpow_neg, zpow_natCast, Nat.pow_eq, Nat.pow_eq]
    push_cast
    field_simp

/-- A power of two is at most a quotient exactly if it is so after scaling both parts. -/
theorem two_zpow_le_quotient_iff
    {numerator denominator : Nat}
    (positive : 0 < denominator)
    (q : Int) :
    denominator * Nat.pow 2 q.toNat ≤ numerator * Nat.pow 2 (-q).toNat ↔
      (2 : ℚ) ^ q ≤ numerator / denominator := by
  have power : (0 : ℚ) < 2 ^ q := by positivity
  have scale : (0 : ℚ) < (denominator * Nat.pow 2 q.toNat : Nat) := by
    exact_mod_cast Nat.mul_pos positive (Nat.two_pow_pos _)
  rw [← scaled_quotient numerator denominator q, le_mul_iff_one_le_left power, one_le_div scale]
  exact Nat.cast_le.symm

/-- A positive quotient is between two powers of two, which are told by the lengths of its parts. -/
theorem quotient_binade
    {numerator denominator : Nat}
    (possible : numerator ≠ 0)
    (positive : denominator ≠ 0) :
    (2 : ℚ) ^ ((numerator.log2 : Int) - denominator.log2 - 1) < numerator / denominator ∧
      (numerator : ℚ) / denominator < 2 ^ ((numerator.log2 : Int) - denominator.log2 + 1) := by
  have numeratorLow : ((2 : ℚ) ^ (numerator.log2 : Int)) ≤ numerator := by
    exact_mod_cast Nat.log2_self_le possible
  have numeratorHigh : (numerator : ℚ) < 2 ^ ((numerator.log2 : Int) + 1) := by
    exact_mod_cast @Nat.lt_log2_self numerator
  have denominatorLow : ((2 : ℚ) ^ (denominator.log2 : Int)) ≤ denominator := by
    exact_mod_cast Nat.log2_self_le positive
  have denominatorHigh : (denominator : ℚ) < 2 ^ ((denominator.log2 : Int) + 1) := by
    exact_mod_cast @Nat.lt_log2_self denominator
  have scale : (0 : ℚ) < denominator := by exact_mod_cast Nat.pos_of_ne_zero positive
  have two : (2 : ℚ) ≠ 0 := two_ne_zero
  constructor
  · rw [lt_div_iff₀ scale]
    calc (2 : ℚ) ^ ((numerator.log2 : Int) - denominator.log2 - 1) * denominator
        < 2 ^ ((numerator.log2 : Int) - denominator.log2 - 1) *
            2 ^ ((denominator.log2 : Int) + 1) := by
          gcongr
      _ = 2 ^ (numerator.log2 : Int) := by
          rw [← zpow_add₀ two]
          congr 1
          ring
      _ ≤ numerator := numeratorLow
  · rw [div_lt_iff₀ scale]
    calc (numerator : ℚ) < 2 ^ ((numerator.log2 : Int) + 1) := numeratorHigh
      _ = 2 ^ ((numerator.log2 : Int) - denominator.log2 + 1) *
            2 ^ (denominator.log2 : Int) := by
          rw [← zpow_add₀ two]
          congr 1
          ring
      _ ≤ 2 ^ ((numerator.log2 : Int) - denominator.log2 + 1) * denominator := by
          gcongr

/-- How a quotient lies between powers of two from the one at which it is rounded. -/
structure ScaledTo
    (quotient : ℚ)
    (q : Int) :
    Prop where
  lowest : -1074 ≤ q
  high : quotient < 2 ^ 53 * 2 ^ q
  low : 2 ^ 52 * 2 ^ q ≤ quotient ∨ q = -1074

/-- A positive quotient is rounded at a power of two at which its whole part has 53 bits. -/
theorem scaledTo_quotientPower
    {numerator denominator : Nat}
    (possible : numerator ≠ 0)
    (positive : denominator ≠ 0) :
    ScaledTo (numerator / denominator) (quotientPower numerator denominator) := by
  have two : (2 : ℚ) ≠ 0 := two_ne_zero
  have binade :
      ∃ e : Int, quotientPower numerator denominator = max (-1074) (e - 52) ∧
        (2 : ℚ) ^ e ≤ numerator / denominator ∧
        (numerator : ℚ) / denominator < 2 ^ (e + 1) := by
    obtain ⟨low, high⟩ := quotient_binade possible positive
    by_cases reached :
        denominator * Nat.pow 2 ((numerator.log2 : Int) - denominator.log2).toNat ≤
          numerator * Nat.pow 2 (-((numerator.log2 : Int) - denominator.log2)).toNat
    · refine ⟨(numerator.log2 : Int) - denominator.log2, ?_, ?_, high⟩
      · simp only [quotientPower, if_pos reached]
      · exact (two_zpow_le_quotient_iff (Nat.pos_of_ne_zero positive) _).mp reached
    · refine ⟨(numerator.log2 : Int) - denominator.log2 - 1, ?_, low.le, ?_⟩
      · simp only [quotientPower, if_neg reached]
      · rw [Int.sub_add_cancel]
        rw [two_zpow_le_quotient_iff (Nat.pos_of_ne_zero positive), not_le] at reached
        exact reached
  obtain ⟨e, isPower, low, high⟩ := binade
  have bits (k : Nat) (q : Int) : (2 : ℚ) ^ k * 2 ^ q = 2 ^ (k + q) := by
    rw [← zpow_natCast, ← zpow_add₀ two]
  refine ⟨isPower ▸ le_max_left _ _, ?_, ?_⟩
  · rw [bits]
    refine high.trans_le (zpow_le_zpow_right₀ one_le_two ?_)
    have above := le_max_right (-1074) (e - 52)
    rw [← isPower] at above
    push_cast
    omega
  · rcases max_choice (-1074) (e - 52) with lowest | normal
    · exact .inr (isPower.trans lowest)
    · left
      rw [bits, isPower, normal]
      have same : ((52 : Nat) : Int) + (e - 52) = e := by
        push_cast
        ring
      rw [same]
      exact low

/-- The magnitude `m · 2 ^ q` of a finite number. -/
def magnitude
    (x : Binary64) :
    ℚ :=
  x.significand * 2 ^ x.power

/-- What a finite number stands for. -/
def value
    (x : Binary64) :
    ℚ :=
  if x.isNegative then -x.magnitude else x.magnitude

/-- The bits stand for a number and not for an infinity or for no number. -/
def IsFinite
    (x : Binary64) :
    Prop :=
  x.exponentField < 2047

/--
The number is the nearest one to an exact value: no finite number is nearer, and if another one is
as near the significand is even.
-/
structure IsNearest
    (x : Binary64)
    (exact : ℚ) :
    Prop where
  finite : x.IsFinite
  nearest : ∀ y : Binary64, y.IsFinite → |x.value - exact| ≤ |y.value - exact|
  tieToEven :
    ∀ y : Binary64, y.IsFinite →
      |y.value - exact| = |x.value - exact| → y.value ≠ x.value → x.significand % 2 = 0

/-- A significand has at most 53 bits. -/
theorem significand_lt
    (x : Binary64) :
    x.significand < 2 ^ 53 := by
  simp only [significand, fractionField, Nat.pow_eq]
  split <;> omega

/-- No power is below the smallest one. -/
theorem lowest_le_power
    (x : Binary64) :
    -1074 ≤ x.power := by
  simp only [power]
  split <;> omega

/-- A magnitude is not negative. -/
theorem magnitude_nonneg
    (x : Binary64) :
    0 ≤ x.magnitude := by
  rw [magnitude]
  positivity

/-- A number that is not negative stands for its magnitude. -/
theorem value_of_positive
    {x : Binary64}
    (positive : x.isNegative = false) :
    x.value = x.magnitude := by
  rw [value, positive, if_neg Bool.false_ne_true]

/-- The number without any bit stands for zero. -/
theorem value_zero :
    (⟨0⟩ : Binary64).value = 0 := by
  have significand : (⟨0⟩ : Binary64).significand = 0 := by decide
  rw [value_of_positive (by decide), magnitude, significand, Nat.cast_zero, zero_mul]

/-- What the bits of a rounded quotient stand for. -/
structure Packs
    (x : Binary64)
    (m : Nat)
    (q : Int) :
    Prop where
  finite : x.IsFinite
  positive : x.isNegative = false
  magnitude : x.magnitude = m * 2 ^ q
  parity : m % 2 = 0 → x.significand % 2 = 0

/-- A positive finite number stands for its significand times its power of two. -/
theorem packs_self
    {x : Binary64}
    (finite : x.IsFinite)
    (positive : x.isNegative = false) :
    Packs x x.significand x.power :=
  ⟨finite, positive, rfl, id⟩

/-- What numbers with given fields of exponent and fraction stand for. -/
theorem packs_of_fields
    {x : Binary64}
    {exponent fraction : Nat}
    (isExponent : x.exponentField = exponent)
    (isFraction : x.fractionField = fraction)
    (small : exponent < 2047)
    (positive : x.isNegative = false) :
    (exponent = 0 → Packs x fraction (-1074)) ∧
      (exponent ≠ 0 → Packs x (2 ^ 52 + fraction) (exponent - 1075)) := by
  have finite : x.IsFinite := by
    rw [IsFinite, isExponent]
    exact small
  have packs := packs_self finite positive
  rw [significand, power, isExponent, isFraction, Nat.pow_eq] at packs
  constructor
  · intro zero
    rwa [if_pos zero, if_pos zero] at packs
  · intro nonzero
    rwa [if_neg nonzero, if_neg nonzero] at packs

/-- Bits below infinity whose top is the power and whose rest is the significand stand for both. -/
theorem packs_ofNat
    {m : Nat}
    {q : Int}
    (lowest : -1074 ≤ q)
    (high : m ≤ 2 ^ 53)
    (low : 2 ^ 52 ≤ m ∨ q = -1074)
    (finite : (q + 1074).toNat * Nat.pow 2 52 + m < infinityBits) :
    Packs ⟨UInt64.ofNat ((q + 1074).toNat * Nat.pow 2 52 + m)⟩ m q := by
  obtain ⟨s, rfl⟩ : ∃ s : Nat, q = (s : Int) - 1074 := ⟨(q + 1074).toNat, by omega⟩
  have shift : ((s : Int) - 1074 + 1074).toNat = s := by omega
  rw [shift] at finite ⊢
  simp only [infinityBits, Nat.pow_eq, Nat.reducePow, Nat.reduceMul] at finite high low
  generalize isNumber : (⟨UInt64.ofNat (s * Nat.pow 2 52 + m)⟩ : Binary64) = x
  have bits : x.bits.toNat = s * 4503599627370496 + m := by
    rw [← isNumber]
    simp only [Nat.pow_eq, Nat.reducePow]
    exact UInt64.toNat_ofNat_of_lt' (by simp only [UInt64.size]; omega)
  have positive : x.isNegative = false := by
    rw [isNegative, bits, decide_eq_false_iff_not, Nat.pow_eq]
    omega
  have exponent : x.exponentField = (s * 4503599627370496 + m) / 4503599627370496 := by
    simp only [exponentField, bits, Nat.pow_eq, Nat.reducePow]
    omega
  have fraction : x.fractionField = m % 4503599627370496 := by
    simp only [fractionField, bits, Nat.pow_eq, Nat.reducePow]
    omega
  rcases Nat.lt_or_ge m (2 ^ 52) with below | above
  · -- Below the smallest power there are fewer than 53 bits.
    have fields := packs_of_fields exponent fraction (by omega) positive
    have packs := fields.1 (by omega)
    have isFraction : m % 4503599627370496 = m := Nat.mod_eq_of_lt below
    have same : (s : Int) - 1074 = -1074 := by omega
    rwa [isFraction, ← same] at packs
  · rcases Nat.lt_or_ge m (2 ^ 53) with fits | full
    · have isExponent : (s * 4503599627370496 + m) / 4503599627370496 = s + 1 := by omega
      have isFraction : 2 ^ 52 + m % 4503599627370496 = m := by omega
      rw [isExponent] at exponent
      have packs := (packs_of_fields exponent fraction (by omega) positive).2 (by omega)
      have same : ((s + 1 : Nat) : Int) - 1075 = (s : Int) - 1074 := by omega
      rwa [isFraction, same] at packs
    · -- Rounding up has carried into the next power.
      obtain rfl : m = 2 ^ 53 := by omega
      have isExponent : (s * 4503599627370496 + 2 ^ 53) / 4503599627370496 = s + 2 := by omega
      rw [isExponent] at exponent
      have packs := (packs_of_fields exponent fraction (by omega) positive).2 (by omega)
      refine ⟨packs.finite, positive, ?_, fun _ => packs.parity (by decide)⟩
      have same : ((s + 2 : Nat) : Int) - 1075 = (s : Int) - 1074 + 1 := by omega
      rw [packs.magnitude, same, zpow_add_one₀ two_ne_zero]
      norm_num
      ring

/-- A number of at least some power is a whole number of units of this power. -/
theorem exists_whole_of_le_power
    {y : Binary64}
    {q : Int}
    (large : q ≤ y.power) :
    ∃ k : Int, y.value = k * 2 ^ q := by
  have power : (2 : ℚ) ^ y.power = 2 ^ (y.power - q).toNat * 2 ^ q := by
    have split : y.power = ((y.power - q).toNat : Int) + q := by omega
    rw [← zpow_natCast, ← zpow_add₀ two_ne_zero, ← split]
  have whole : y.magnitude = ((y.significand * 2 ^ (y.power - q).toNat : Nat) : ℚ) * 2 ^ q := by
    rw [magnitude, power]
    push_cast
    ring
  rw [value, whole]
  split
  · refine ⟨-((y.significand * 2 ^ (y.power - q).toNat : Nat) : Int), ?_⟩
    push_cast
    ring
  · exact ⟨((y.significand * 2 ^ (y.power - q).toNat : Nat) : Int), by push_cast; ring⟩

/-- A number of a smaller power is below the smallest number of 53 bits and a greater power. -/
theorem value_lt_of_power_lt
    {y : Binary64}
    {q : Int}
    (small : y.power < q) :
    y.value < 2 ^ 52 * 2 ^ q := by
  have significand : (y.significand : ℚ) < 2 ^ 53 := by exact_mod_cast y.significand_lt
  have power : (2 : ℚ) ^ y.power ≤ 2 ^ (q - 1) := zpow_le_zpow_right₀ one_le_two (by omega)
  have positive : (0 : ℚ) < 2 ^ (q - 1) := by positivity
  have bound : y.value ≤ y.magnitude := by
    have nonneg := y.magnitude_nonneg
    rw [value]
    split <;> linarith
  calc y.value
      ≤ y.significand * 2 ^ y.power := bound
    _ ≤ y.significand * 2 ^ (q - 1) := by gcongr
    _ < 2 ^ 53 * 2 ^ (q - 1) := by gcongr
    _ = 2 ^ 52 * 2 ^ q := by
        rw [zpow_sub_one₀ two_ne_zero]
        ring

/-- The rounded quotient, as a number of the power at which it was rounded, is the nearest one. -/
theorem isNearest_of_packs
    {x : Binary64}
    {numerator denominator : Nat}
    {q : Int}
    (positive : 0 < denominator)
    (packs : Packs x (roundedQuotient numerator denominator) q)
    (scaled : ScaledTo ((numerator : ℚ) / denominator * 2 ^ q) q) :
    x.IsNearest ((numerator : ℚ) / denominator * 2 ^ q) := by
  have unit : (0 : ℚ) < 2 ^ q := by positivity
  have isValue : x.value = roundedQuotient numerator denominator * 2 ^ q := by
    rw [value_of_positive packs.positive, packs.magnitude]
  have inUnits (k : ℚ) :
      |k * 2 ^ q - (numerator : ℚ) / denominator * 2 ^ q| =
        |k - (numerator : ℚ) / denominator| * 2 ^ q := by
    rw [← sub_mul, abs_mul, abs_of_pos unit]
  have wholeOrFarther :
      ∀ y : Binary64,
        (∃ k : Int, y.value = k * 2 ^ q) ∨
          |x.value - (numerator : ℚ) / denominator * 2 ^ q| <
            |y.value - (numerator : ℚ) / denominator * 2 ^ q| := by
    intro y
    rcases le_or_gt q y.power with large | small
    · exact .inl (exists_whole_of_le_power large)
    · right
      have below := value_lt_of_power_lt small
      have lowest := y.lowest_le_power
      have low := scaled.low.resolve_right (by omega)
      -- The smallest whole number of 53 bits is between the quotient and the smaller power.
      have between := (@roundedQuotient_nearest numerator _ positive (2 ^ 52)).1
      rw [← mul_le_mul_iff_left₀ unit, ← inUnits, ← inUnits, ← isValue] at between
      refine between.trans_lt ?_
      push_cast
      rw [abs_of_nonpos (by linarith), abs_of_nonpos (by linarith)]
      linarith
  refine ⟨packs.finite, ?_, ?_⟩
  · intro y _
    rcases wholeOrFarther y with ⟨k, whole⟩ | farther
    · rw [whole, isValue, inUnits, inUnits, mul_le_mul_iff_left₀ unit]
      exact (roundedQuotient_nearest positive k).1
    · exact farther.le
  · intro y _ tie differ
    rcases wholeOrFarther y with ⟨k, whole⟩ | farther
    · rw [whole, isValue, inUnits, inUnits] at tie
      have tied := mul_right_cancel₀ unit.ne' tie
      refine packs.parity ((roundedQuotient_nearest positive k).2 tied ?_)
      intro same
      rw [whole, isValue, same] at differ
      exact differ (by push_cast; rfl)
    · exact absurd tie farther.ne'

/-- The rounded quotient has 53 bits, or fewer at the smallest power. -/
theorem roundedQuotient_of_scaledTo
    {numerator denominator : Nat}
    {q : Int}
    (positive : 0 < denominator)
    (scaled : ScaledTo ((numerator : ℚ) / denominator * 2 ^ q) q) :
    roundedQuotient numerator denominator ≤ 2 ^ 53 ∧
      (2 ^ 52 ≤ roundedQuotient numerator denominator ∨ q = -1074) := by
  have unit : (0 : ℚ) < 2 ^ q := by positivity
  have power (k : Nat) : ((2 ^ k : Nat) : ℚ) = 2 ^ k := Nat.cast_pow 2 k
  constructor
  · refine (roundedQuotient_bounds positive (2 ^ 53)).1 ?_
    rw [power]
    exact lt_of_mul_lt_mul_right scaled.high unit.le
  · refine scaled.low.imp_left fun low => (roundedQuotient_bounds positive (2 ^ 52)).2 ?_
    rw [power]
    exact le_of_mul_le_mul_right low unit

/-- The number that is computed for a quotient is the nearest one, and not negative. -/
theorem isNearest_of_ofQuotient?
    {numerator denominator : Nat}
    {x : Binary64}
    (positive : denominator ≠ 0)
    (rounded : ofQuotient? numerator denominator = some x) :
    x.IsNearest (numerator / denominator) ∧ x.isNegative = false := by
  rw [ofQuotient?] at rounded
  split at rounded
  · rename_i zero
    cases rounded
    rw [zero, Nat.cast_zero, zero_div]
    have finite : (⟨0⟩ : Binary64).IsFinite := by
      rw [IsFinite]
      decide
    refine ⟨⟨finite, ?_, ?_⟩, by decide⟩
    · intro y _
      rw [value_zero, sub_zero, abs_zero]
      exact abs_nonneg _
    · intro y _ tie differ
      rw [value_zero, sub_zero, sub_zero, abs_zero, abs_eq_zero] at tie
      exact absurd (tie.trans value_zero.symm) differ
  · rename_i possible
    dsimp only at rounded
    split at rounded
    · rename_i finite
      cases rounded
      have scaled := scaledTo_quotientPower possible positive
      generalize quotientPower numerator denominator = q at finite scaled ⊢
      have quotient := scaled_quotient numerator denominator q
      have scale : 0 < denominator * Nat.pow 2 q.toNat :=
        Nat.mul_pos (Nat.pos_of_ne_zero positive) (Nat.two_pow_pos _)
      rw [← quotient] at scaled ⊢
      obtain ⟨high, low⟩ := roundedQuotient_of_scaledTo scale scaled
      have packs := packs_ofNat scaled.lowest high low finite
      exact ⟨isNearest_of_packs scale packs scaled, packs.positive⟩
    · cases rounded

/-- There is a finite number nearest to a quotient that is not too large. -/
theorem exists_ofQuotient?_of_lt
    {numerator denominator : Nat}
    (positive : denominator ≠ 0)
    (small : (numerator : ℚ) / denominator < 2 ^ 64) :
    ∃ x, ofQuotient? numerator denominator = some x := by
  by_cases possible : numerator = 0
  · exact ⟨⟨0⟩, if_pos possible⟩
  · have scaled := scaledTo_quotientPower possible positive
    have powerSmall : quotientPower numerator denominator < 12 := by
      rcases scaled.low with low | lowest
      · have below := low.trans_lt small
        have bits : (2 : ℚ) ^ 64 = 2 ^ 52 * 2 ^ (12 : Int) := by norm_num
        rw [bits, mul_lt_mul_iff_right₀ (by positivity)] at below
        exact (zpow_lt_zpow_iff_right₀ one_lt_two).mp below
      · omega
    have quotient := scaled_quotient numerator denominator (quotientPower numerator denominator)
    have scale :
        0 < denominator * Nat.pow 2 (quotientPower numerator denominator).toNat :=
      Nat.mul_pos (Nat.pos_of_ne_zero positive) (Nat.two_pow_pos _)
    rw [← quotient] at scaled
    have high := (roundedQuotient_of_scaledTo scale scaled).1
    have finite :
        (quotientPower numerator denominator + 1074).toNat * Nat.pow 2 52 +
            roundedQuotient
              (numerator * Nat.pow 2 (-quotientPower numerator denominator).toNat)
              (denominator * Nat.pow 2 (quotientPower numerator denominator).toNat) <
          infinityBits := by
      simp only [infinityBits, Nat.pow_eq, Nat.reducePow, Nat.reduceMul] at high ⊢
      omega
    rw [ofQuotient?, if_neg possible]
    exact ⟨_, if_pos finite⟩

/-- Giving a number a sign sets this sign and leaves the other fields. -/
theorem fields_withSign
    (negative : Bool)
    (x : Binary64) :
    (x.withSign negative).isNegative = negative ∧
      (x.withSign negative).exponentField = x.exponentField ∧
        (x.withSign negative).fractionField = x.fractionField := by
  have sign : x.bits.toNat % 2 ^ 63 + (if negative then 2 ^ 63 else 0) < UInt64.size := by
    have below : x.bits.toNat % 2 ^ 63 < 2 ^ 63 := Nat.mod_lt _ (by decide)
    simp only [UInt64.size]
    split <;> omega
  have bits := UInt64.toNat_ofNat_of_lt' sign
  simp only [withSign, isNegative, exponentField, fractionField, Nat.pow_eq, bits]
  cases negative <;> simp <;> omega

section

variable
  (negative : Bool)
  (x : Binary64)

/-- A number with a sign has the significand that it has without. -/
theorem significand_withSign :
    (x.withSign negative).significand = x.significand := by
  obtain ⟨_, exponent, fraction⟩ := fields_withSign negative x
  rw [significand, significand, exponent, fraction]

/-- A number with a sign stands for its magnitude with this sign. -/
theorem value_withSign :
    (x.withSign negative).value = if negative then -x.magnitude else x.magnitude := by
  obtain ⟨sign, exponent, _⟩ := fields_withSign negative x
  have sameMagnitude : (x.withSign negative).magnitude = x.magnitude := by
    rw [magnitude, magnitude, significand_withSign, power, power, exponent]
  rw [value, sign, sameMagnitude]

/-- Reversing the sign of a finite number gives a finite number that stands for the opposite. -/
theorem exists_finite_neg
    (finite : x.IsFinite) :
    ∃ y : Binary64, y.IsFinite ∧ y.value = -x.value := by
  refine ⟨x.withSign (!x.isNegative), ?_, ?_⟩
  · rw [IsFinite, (fields_withSign _ x).2.1]
    exact finite
  · rw [value_withSign, value]
    cases x.isNegative <;> simp

end

/-- The nearest number to an exact value is, with a sign, the nearest one to the value with it. -/
theorem IsNearest.withSign
    {x : Binary64}
    {exact : ℚ}
    (nearest : x.IsNearest exact)
    (positive : x.isNegative = false)
    (negative : Bool) :
    (x.withSign negative).IsNearest (if negative then -exact else exact) := by
  have isValue := value_of_positive positive
  have finite : (x.withSign negative).IsFinite := by
    rw [IsFinite, (fields_withSign negative x).2.1]
    exact nearest.finite
  have signed := value_withSign negative x
  rw [← isValue] at signed
  cases negative with
  | false =>
      simp only [Bool.false_eq_true, if_false] at signed ⊢
      refine ⟨finite, ?_, ?_⟩
      · rw [signed]
        exact nearest.nearest
      · rw [signed, significand_withSign]
        exact nearest.tieToEven
  | true =>
      simp only [if_true] at signed ⊢
      have opposite (u : ℚ) : |u - -exact| = |(-u) - exact| := by
        have reversed : -(u - -exact) = -u - exact := by ring
        rw [← abs_neg (u - -exact), reversed]
      refine ⟨finite, ?_, ?_⟩
      · intro y yFinite
        obtain ⟨z, zFinite, reversed⟩ := exists_finite_neg y yFinite
        rw [signed, opposite, opposite, neg_neg, ← reversed]
        exact nearest.nearest z zFinite
      · intro y yFinite tie differ
        obtain ⟨z, zFinite, reversed⟩ := exists_finite_neg y yFinite
        rw [signed, opposite, opposite, neg_neg, ← reversed] at tie
        rw [significand_withSign]
        refine nearest.tieToEven z zFinite tie ?_
        intro same
        rw [same] at reversed
        rw [signed, reversed, neg_neg] at differ
        exact differ rfl

end Binary64

end BenchmarkOrchestration
