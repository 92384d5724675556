import GraphCalc.Double.Order
import GraphCalc.Double.Shortest
import Mathlib.Algebra.Order.Field.Power
import Mathlib.Algebra.Order.Field.Rat
import Mathlib.Tactic.Linarith
import Mathlib.Tactic.Positivity
import Mathlib.Tactic.Ring

/-!
# Rounding intervals

A number rounds to the double in whose rounding interval it lies. The intervals of different doubles follow one
another in the order of the doubles and do not overlap: two neighbours meet in one number, which belongs to the
one with the even mantissa. So rounding keeps the order, and no number rounds to two doubles:
`magnitudeRank_le_of_mem` says both.

All of this is about magnitudes, with exponents that are not bounded above.
-/

namespace GraphCalc.Double

variable {m n : Nat} {e d : Int} {r s : Rat}

/-- A mantissa and an exponent as a double has them, but for the largest exponent. Only under the least
exponent a mantissa may be short. -/
structure Canonical (m : Nat) (e : Int) : Prop where
  below : m < mantissaLimit
  least : minExponent ≤ e
  full : mantissaLimit ≤ 2 * m ∨ e = minExponent

/-- Rounding to the nearest takes a magnitude to a mantissa and an exponent. -/
def RoundsTo (r : Rat) (m : Nat) (e : Int) : Prop := (roundingInterval m e).contains r = true

theorem Canonical.zero : Canonical 0 minExponent := ⟨by decide, le_refl _, .inr rfl⟩

theorem two_zpow_pos (e : Int) : (0 : Rat) < 2 ^ e := by positivity

theorem two_zpow_succ (e : Int) : (2 : Rat) ^ (e + 1) = 2 * 2 ^ e := by
  rw [zpow_add_one₀ (by norm_num), mul_comm]

theorem two_zpow_le_of_lt (less : d < e) : 2 * (2 : Rat) ^ d ≤ 2 ^ e := by
  rw [← two_zpow_succ]
  exact zpow_le_zpow_right₀ (by norm_num) less

theorem magnitude_nonneg (m : Nat) (e : Int) : 0 ≤ magnitude m e := by
  unfold magnitude
  positivity

theorem contains_iff (i : Interval) :
    i.contains r = true ↔ i.low ≤ r ∧ r ≤ i.high ∧ (i.closed = false → i.low < r ∧ r < i.high) := by
  unfold Interval.contains
  cases i.closed with
  | true => simp
  | false =>
    simp only [Bool.false_eq_true, if_false, Bool.and_eq_true, decide_eq_true_eq, forall_const]
    exact ⟨fun inside => ⟨inside.1.le, inside.2.le, inside⟩, fun inside => inside.2.2⟩

theorem closed_eq_false_iff : (roundingInterval m e).closed = false ↔ m % 2 = 1 := by
  simp only [roundingInterval, decide_eq_false_iff_not]
  omega

theorem low_of_power (power : 2 * m = mantissaLimit) (above : minExponent < e) :
    (roundingInterval m e).low = (m - 1 / 4) * 2 ^ e := by
  simp [roundingInterval, power, above]

theorem low_of_not_power (other : ¬(2 * m = mantissaLimit ∧ minExponent < e)) :
    (roundingInterval m e).low = (m - 1 / 2) * 2 ^ e := by
  simp [roundingInterval, other]

theorem high_eq (m : Nat) (e : Int) : (roundingInterval m e).high = (m + 1 / 2) * 2 ^ e := rfl

/-- No interval starts lower than half a unit below its double. -/
theorem le_low (m : Nat) (e : Int) : (m - 1 / 2) * 2 ^ e ≤ (roundingInterval m e).low := by
  by_cases power : 2 * m = mantissaLimit ∧ minExponent < e
  · rw [low_of_power power.1 power.2]
    have unit := two_zpow_pos e
    nlinarith
  · rw [low_of_not_power power]

theorem RoundsTo.le_high (rounds : RoundsTo r m e) : r ≤ (m + 1 / 2) * 2 ^ e :=
  ((contains_iff _).mp rounds).2.1

theorem RoundsTo.ge_low (rounds : RoundsTo r m e) : (roundingInterval m e).low ≤ r :=
  ((contains_iff _).mp rounds).1

/-- The ends of the interval of an odd mantissa do not belong to it. -/
theorem RoundsTo.strict_of_odd (rounds : RoundsTo r m e) (odd : m % 2 = 1) :
    (roundingInterval m e).low < r ∧ r < (m + 1 / 2) * 2 ^ e :=
  ((contains_iff _).mp rounds).2.2 (closed_eq_false_iff.mpr odd)

/-- A double rounds to itself. -/
theorem roundsTo_magnitude (m : Nat) (e : Int) : RoundsTo (magnitude m e) m e := by
  have unit := two_zpow_pos e
  have high : magnitude m e < (m + 1 / 2) * 2 ^ e := by
    unfold magnitude
    nlinarith
  have low : (roundingInterval m e).low < magnitude m e := by
    unfold magnitude
    by_cases power : 2 * m = mantissaLimit ∧ minExponent < e
    · rw [low_of_power power.1 power.2]
      nlinarith
    · rw [low_of_not_power power]
      nlinarith
  exact (contains_iff _).mpr ⟨low.le, high.le, fun _ => ⟨low, high⟩⟩

/-- What rounds to zero does so with either sign. -/
theorem RoundsTo.neg_of_zero (rounds : RoundsTo r 0 e) : RoundsTo (-r) 0 e := by
  have low : (roundingInterval 0 e).low = (0 - 1 / 2) * 2 ^ e :=
    low_of_not_power (by rw [mantissaLimit]; omega)
  have above := rounds.ge_low
  have below := rounds.le_high
  refine (contains_iff _).mpr ⟨?_, ?_, fun odd => ?_⟩
  · rw [low]
    simp only [Nat.cast_zero] at below
    linarith
  · rw [high_eq, Nat.cast_zero]
    linarith
  · cases closed_eq_false_iff.mp odd

/-- Only what is positive rounds to a positive double. -/
theorem RoundsTo.pos (rounds : RoundsTo r m e) (positive : 0 < m) : 0 < r := by
  have atLeastOne : (1 : Rat) ≤ m := by exact_mod_cast positive
  have unit := two_zpow_pos e
  have above := (le_low m e).trans rounds.ge_low
  nlinarith

/-- Under one exponent the interval of a smaller mantissa comes first. -/
theorem lt_of_mantissa_lt (rr : RoundsTo r m e) (sn : RoundsTo s n e) (less : n < m) : s < r := by
  have step : (n : Rat) + 1 ≤ m := by exact_mod_cast less
  have unit := two_zpow_pos e
  have above := (le_low m e).trans rr.ge_low
  have below := sn.le_high
  by_contra! notLess
  -- the intervals meet in one point, and one of the two mantissas is odd
  have meet : (n : Rat) + 1 = m := by nlinarith
  have consecutive : n + 1 = m := by exact_mod_cast meet
  rcases Nat.mod_two_eq_zero_or_one n with even | odd
  · have strict := (rr.strict_of_odd (by omega)).1
    have := le_low m e
    nlinarith
  · have strict := (sn.strict_of_odd odd).2
    nlinarith

/-- The intervals under an exponent end half a unit beyond the largest mantissa. That end does not belong to
them, as the largest mantissa is odd. -/
theorem RoundsTo.lt_limit (rounds : RoundsTo r m e) (canonical : Canonical m e) :
    r < (mantissaLimit - 1 / 2) * 2 ^ e := by
  have unit := two_zpow_pos e
  by_cases last : m + 1 = mantissaLimit
  · have odd : m % 2 = 1 := by
      rw [mantissaLimit] at last
      omega
    have strict := (rounds.strict_of_odd odd).2
    have same : (m : Rat) + 1 = mantissaLimit := by exact_mod_cast last
    rw [← same]
    linarith
  · have room : (m : Rat) + 2 ≤ mantissaLimit := by
      exact_mod_cast (by have := canonical.below; omega : m + 2 ≤ mantissaLimit)
    have below := rounds.le_high
    nlinarith

/-- The intervals under larger exponents start there. -/
theorem RoundsTo.limit_le (rounds : RoundsTo r m e) (canonical : Canonical m e) (least : minExponent ≤ d)
    (less : d < e) : (mantissaLimit - 1 / 2) * 2 ^ d ≤ r := by
  have above : minExponent < e := lt_of_le_of_lt least less
  have full : mantissaLimit ≤ 2 * m := canonical.full.resolve_right (by omega)
  have unit := two_zpow_pos d
  have double := two_zpow_le_of_lt less
  have limit : (2 : Rat) ≤ mantissaLimit := by norm_num [mantissaLimit]
  refine le_trans ?_ rounds.ge_low
  by_cases power : 2 * m = mantissaLimit
  · rw [low_of_power power above]
    have half : 2 * (m : Rat) = mantissaLimit := by exact_mod_cast power
    nlinarith
  · have more : (mantissaLimit : Rat) + 1 ≤ 2 * m := by
      exact_mod_cast Nat.lt_of_le_of_ne full (Ne.symm power)
    rw [low_of_not_power (fun both => power both.1)]
    nlinarith

/-- The intervals under a smaller exponent come first. -/
theorem lt_of_exponent_lt (cm : Canonical m e) (rr : RoundsTo r m e) (cn : Canonical n d)
    (sn : RoundsTo s n d) (less : d < e) : s < r :=
  (sn.lt_limit cn).trans_le (rr.limit_le cm cn.least less)

/-- Rounding keeps the order. -/
theorem magnitudeRank_le_of_mem (cm : Canonical m e) (rr : RoundsTo r m e) (cn : Canonical n d)
    (sn : RoundsTo s n d) (le : r ≤ s) : magnitudeRank m e ≤ magnitudeRank n d := by
  by_contra! less
  have earlier : d < e ∨ (d = e ∧ n < m) := by
    have := cm.below
    have := cn.below
    have := cm.least
    have := cn.least
    simp only [magnitudeRank, minExponent, mantissaLimit] at *
    omega
  rcases earlier with lower | ⟨rfl, smaller⟩
  · exact absurd (lt_of_exponent_lt cm rr cn sn lower) (not_lt.mpr le)
  · exact absurd (lt_of_mantissa_lt rr sn smaller) (not_lt.mpr le)

end GraphCalc.Double
