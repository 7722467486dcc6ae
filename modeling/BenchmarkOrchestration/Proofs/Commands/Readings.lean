import BenchmarkOrchestration.Commands.Clock
import BenchmarkOrchestration.Commands.Command
import BenchmarkOrchestration.Proofs.Number.Rounding
import Mathlib.Algebra.Order.Ring.Int

namespace BenchmarkOrchestration

/-!
# Readings of a clock

A clock gives one reading after the other.  The time between two readings whose difference fits in a
word is this difference, told in seconds as the nearest number to a thousandth of it; if it is not
negative it cannot be taken for the mark of a run that has no time.
-/

namespace Clock

/-- The clock after some readings. -/
def after : Clock → Nat → Clock
  | clock, 0 => clock
  | clock, count + 1 => after clock.read.2 count

/-- The reading at a place: the last one stays, and a clock without readings shows zero. -/
def reading
    (clock : Clock)
    (place : Nat) :
    Int64 :=
  clock.readings[place]?.getD (clock.readings.getLast?.getD 0)

/-- Readings one after the other, from a place on. -/
def readingsFrom
    (clock : Clock)
    (place count : Nat) :
    List Int64 :=
  (List.range count).map fun step => clock.reading (place + step)

/-- No reading is before the one it follows. -/
def NonDecreasing
    (clock : Clock) :
    Prop :=
  ∀ place, (clock.reading place).toInt ≤ (clock.reading (place + 1)).toInt

/-- The time from one reading to the next fits in a word. -/
def DifferencesFit
    (clock : Clock) :
    Prop :=
  ∀ place,
    -2 ^ 63 ≤ (clock.reading (place + 1)).toInt - (clock.reading place).toInt ∧
      (clock.reading (place + 1)).toInt - (clock.reading place).toInt < 2 ^ 63

/-- The first reading of a clock. -/
theorem read_fst
    (clock : Clock) :
    clock.read.1 = clock.reading 0 := by
  obtain ⟨readings⟩ := clock
  match readings with
  | [] => rfl
  | [_] => rfl
  | _ :: _ :: _ => rfl

/-- Reading a clock leaves the later readings. -/
theorem reading_read_snd
    (clock : Clock)
    (place : Nat) :
    clock.read.2.reading place = clock.reading (place + 1) := by
  obtain ⟨readings⟩ := clock
  match readings with
  | [] => simp [read, reading]
  | [last] => cases place <;> simp [read, reading]
  | first :: second :: rest => simp [read, reading, List.getLast?_cons_cons]

/-- The clock after some readings gives the later ones. -/
theorem reading_after
    (clock : Clock)
    (count place : Nat) :
    (clock.after count).reading place = clock.reading (count + place) := by
  induction count generalizing clock with
  | zero =>
      rw [after, Nat.zero_add]
  | succ count inductionHypothesis =>
      rw [after, inductionHypothesis, reading_read_snd, Nat.succ_add]

/-- Readings are taken one after the other. -/
theorem after_after
    (clock : Clock)
    (first second : Nat) :
    (clock.after first).after second = clock.after (first + second) := by
  induction first generalizing clock with
  | zero =>
      rw [after, Nat.zero_add]
  | succ first inductionHypothesis =>
      rw [after, inductionHypothesis, Nat.succ_add, after]

/-- Reading a clock gives the reading at its place and leaves the clock one place further. -/
theorem read_after
    (clock : Clock)
    (count : Nat) :
    (clock.after count).read = (clock.reading count, clock.after (count + 1)) := by
  have shown : (clock.after count).read.1 = clock.reading count := by
    rw [read_fst, reading_after, Nat.add_zero]
  have left : (clock.after count).read.2 = clock.after (count + 1) :=
    clock.after_after count 1
  rw [← shown, ← left]

/-- The clock after some readings gives the ones from a later place on. -/
theorem readingsFrom_after
    (clock : Clock)
    (count place more : Nat) :
    (clock.after count).readingsFrom place more = clock.readingsFrom (count + place) more := by
  simp only [readingsFrom, reading_after, Nat.add_assoc]

/-- While there are readings left, every reading takes one. -/
theorem readings_after
    {clock : Clock}
    {count : Nat}
    (enough : count < clock.readings.length) :
    (clock.after count).readings = clock.readings.drop count := by
  induction count generalizing clock with
  | zero =>
      rw [after, List.drop_zero]
  | succ count inductionHypothesis =>
      obtain ⟨readings⟩ := clock
      match readings with
      | [] => simp at enough
      | [_] => simp at enough
      | first :: second :: rest =>
          have fewer : count < (Clock.mk (second :: rest)).readings.length := by
            simpa using enough
          exact inductionHypothesis fewer

end Clock

/--
A number is what a count of milliseconds is in seconds: the count is rounded to the nearest number,
and a thousandth of this number is rounded again.
-/
def Binary64.IsSecondsOf
    (x : Binary64)
    (count : Int) :
    Prop :=
  ∃ exact : Binary64, exact.IsNearest count ∧ x.IsNearest (exact.value / 1000)

namespace Runtime

/-- The seconds are negative exactly if the milliseconds are. -/
theorem isNegative_seconds
    (runtime : Runtime) :
    runtime.seconds.isNegative = decide (runtime.milliseconds.toInt < 0) := by
  rw [seconds, (Binary64.fields_withSign _ _).1]

/-- A count of milliseconds without its sign is rounded to a number at most twice as large. -/
theorem exists_rounded_milliseconds
    (runtime : Runtime) :
    ∃ exact : Binary64,
      Binary64.ofQuotient? runtime.milliseconds.toInt.natAbs 1 = some exact ∧
        exact.IsNearest runtime.milliseconds.toInt.natAbs ∧
        exact.isNegative = false ∧
        exact.magnitude ≤ 2 ^ 64 := by
  have size : runtime.milliseconds.toInt.natAbs ≤ 2 ^ 63 := by
    have low := runtime.milliseconds.le_toInt
    have high := runtime.milliseconds.toInt_lt
    omega
  have sizeBound : (runtime.milliseconds.toInt.natAbs : ℚ) ≤ 2 ^ 63 := by exact_mod_cast size
  obtain ⟨exact, computed⟩ :=
    @Binary64.exists_ofQuotient?_of_lt runtime.milliseconds.toInt.natAbs 1 Nat.one_ne_zero (by
      rw [Nat.cast_one, div_one]
      exact sizeBound.trans_lt (by norm_num))
  obtain ⟨nearest, positive⟩ := Binary64.isNearest_of_ofQuotient? Nat.one_ne_zero computed
  rw [Nat.cast_one, div_one] at nearest
  refine ⟨exact, computed, nearest, positive, ?_⟩
  -- Zero is a finite number, and it is no nearer.
  have zeroFinite : (⟨0⟩ : Binary64).IsFinite := by
    rw [Binary64.IsFinite]
    decide
  have closer := nearest.nearest ⟨0⟩ zeroFinite
  rw [Binary64.value_zero, zero_sub, abs_neg, Nat.abs_cast] at closer
  have upper := (le_abs_self _).trans closer
  rw [Binary64.value_of_positive positive] at upper
  linarith

/-- The seconds of a run time are what its milliseconds are in seconds. -/
theorem isSecondsOf_seconds
    (runtime : Runtime) :
    runtime.seconds.IsSecondsOf runtime.milliseconds.toInt := by
  obtain ⟨exact, computed, nearest, positive, bound⟩ := runtime.exists_rounded_milliseconds
  have thousandth :
      ((exact.significand * Nat.pow 2 exact.power.toNat : Nat) : ℚ) /
          (1000 * Nat.pow 2 (-exact.power).toNat : Nat) =
        exact.magnitude / 1000 := by
    have scaled := Binary64.scaled_quotient exact.significand 1000 (-exact.power)
    rw [neg_neg, Nat.cast_ofNat] at scaled
    rw [Binary64.magnitude, mul_div_right_comm, ← scaled, mul_assoc,
      ← zpow_add₀ two_ne_zero, neg_add_cancel, zpow_zero, mul_one]
  have divisor : 1000 * Nat.pow 2 (-exact.power).toNat ≠ 0 :=
    Nat.mul_ne_zero (by decide) (Nat.two_pow_pos _).ne'
  obtain ⟨quotient, divided⟩ :=
    Binary64.exists_ofQuotient?_of_lt divisor (by
      rw [thousandth]
      linarith)
  obtain ⟨quotientNearest, quotientPositive⟩ := Binary64.isNearest_of_ofQuotient? divisor divided
  rw [thousandth] at quotientNearest
  have isSeconds :
      runtime.seconds = quotient.withSign (runtime.milliseconds.toInt < 0) := by
    simp only [seconds, computed, Option.getD_some, divided]
  refine ⟨exact.withSign (runtime.milliseconds.toInt < 0), ?_, ?_⟩
  · have signed := nearest.withSign positive (runtime.milliseconds.toInt < 0)
    have count :
        (runtime.milliseconds.toInt : ℚ) =
          if decide (runtime.milliseconds.toInt < 0) = true then
            -(runtime.milliseconds.toInt.natAbs : ℚ)
          else
            runtime.milliseconds.toInt.natAbs := by
      rw [Nat.cast_natAbs]
      by_cases negative : runtime.milliseconds.toInt < 0
      · rw [if_pos (decide_eq_true negative), abs_of_neg negative, Int.cast_neg, neg_neg]
      · rw [if_neg (by simpa using negative), abs_of_nonneg (Int.not_lt.mp negative)]
    rw [count]
    exact signed
  · have signed :=
      quotientNearest.withSign quotientPositive (runtime.milliseconds.toInt < 0)
    rw [isSeconds, Binary64.value_withSign, ite_div, neg_div]
    exact signed

/-- The mark of a run without a time is minus one second. -/
theorem value_seconds_untimed :
    untimed.seconds.value = -1 := by
  have negative : untimed.seconds.isNegative = true := by decide +kernel
  have significand : untimed.seconds.significand = 2 ^ 52 := by decide +kernel
  have power : untimed.seconds.power = -52 := by decide +kernel
  rw [Binary64.value, if_pos negative, Binary64.magnitude, significand, power]
  norm_num

/-- A run of no duration takes no second. -/
theorem value_seconds_zero :
    zero.seconds.value = 0 := by
  have bits : zero.seconds = ⟨0⟩ := by decide +kernel
  rw [bits, Binary64.value_zero]

/-- A time between readings whose difference fits is this difference. -/
theorem toInt_between
    {start stop : Int64}
    (fits : -2 ^ 63 ≤ stop.toInt - start.toInt ∧ stop.toInt - start.toInt < 2 ^ 63) :
    (between start stop).milliseconds.toInt = stop.toInt - start.toInt := by
  rw [between, Int64.toInt_sub]
  exact Int.bmod_eq_of_le (by omega) (by omega)

/-- A run time that is told as one: it is not negative and not the mark of a run without one. -/
structure IsTold
    (runtime : Runtime) :
    Prop where
  nonneg : 0 ≤ runtime.milliseconds.toInt
  positiveSeconds : runtime.seconds.isNegative = false
  nonnegSeconds : 0 ≤ runtime.seconds.value
  ne_untimed : runtime ≠ .untimed
  seconds_ne_untimed : runtime.seconds ≠ Runtime.untimed.seconds
  seconds_ne_mark : runtime.seconds.value ≠ -1

/-- A run time that is not negative is told apart from the mark of a run without one. -/
theorem isTold_of_nonneg
    {runtime : Runtime}
    (nonneg : 0 ≤ runtime.milliseconds.toInt) :
    runtime.IsTold := by
  have positive : runtime.seconds.isNegative = false := by
    rw [isNegative_seconds]
    exact decide_eq_false (Int.not_lt.mpr nonneg)
  have nonnegSeconds : 0 ≤ runtime.seconds.value := by
    rw [Binary64.value_of_positive positive]
    exact runtime.seconds.magnitude_nonneg
  have seconds_ne_mark : runtime.seconds.value ≠ -1 := by
    intro same
    rw [same] at nonnegSeconds
    exact absurd nonnegSeconds (by norm_num)
  have seconds_ne : runtime.seconds ≠ Runtime.untimed.seconds := by
    intro same
    exact seconds_ne_mark ((congrArg Binary64.value same).trans value_seconds_untimed)
  exact {
    nonneg := nonneg
    positiveSeconds := positive
    nonnegSeconds := nonnegSeconds
    ne_untimed := fun same => seconds_ne (congrArg seconds same)
    seconds_ne_untimed := seconds_ne
    seconds_ne_mark := seconds_ne_mark }

end Runtime

end BenchmarkOrchestration
