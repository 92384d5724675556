import GraphCalc.Proofs.MonotoneArithmetic

/-!
# Rounding errors

How far a number may be from the double that it rounds to. A number from zero on rounds to a finite double up to
`overflowLimit` and to the positive infinity from there on. The finite double is at most half a unit in the last
place too large, `RoundsTo.magnitude_le`, and natural numbers up to `mantissaLimit` are converted without any
error, `value_ofNat`.
-/

namespace GraphCalc.Double

open Float.Model Float.Model.UnpackedFloat

variable {x : Float} {r : Rat} {m n k : Nat} {e : Int} {sign : Sign}

/-- Half a unit beyond the largest finite double. -/
def overflowLimit : Rat := (mantissaLimit - 1 / 2) * 2 ^ maxExponent

/-- What a double is that a number from zero on rounds to. -/
theorem Rounds.nonneg_cases (rounds : Rounds r x) (nonneg : 0 ≤ r) :
    ∃ m e, Canonical m e ∧ RoundsTo r m e ∧
      (e ≤ maxExponent ∧ x.isFinite ∧ value x = magnitude m e ∨ maxExponent < e ∧ IsTop x) := by
  obtain ⟨sign, m, e, canonical, near, shape⟩ := rounds
  have inside (small : e ≤ maxExponent) : x.isFinite ∧ value x = signed sign (magnitude m e) := by
    rw [saturated_of_le small] at shape
    exact ⟨isFinite_of_unpacked shape, value_of_unpacked shape⟩
  cases sign with
  | positive =>
    refine ⟨m, e, canonical, near, ?_⟩
    rcases le_or_gt e maxExponent with small | large
    · exact .inl ⟨small, inside small⟩
    · rw [saturated, if_pos large] at shape
      exact .inr ⟨large, shape⟩
  | negative =>
    -- only zero rounds to a negative double, the negative zero
    obtain rfl : m = 0 := by
      by_contra nonzero
      have := near.pos (Nat.pos_of_ne_zero nonzero)
      rw [signed] at this
      linarith
    have small : e ≤ maxExponent := canonical.exponent_of_zero ▸ by decide
    obtain ⟨finite, worth⟩ := inside small
    have back : RoundsTo r 0 e := neg_neg r ▸ near.neg_of_zero
    exact ⟨0, e, canonical, back, .inl ⟨small, finite, by simpa [signed, magnitude] using worth⟩⟩

/-- A number from zero on rounds to a finite double below the limit, and to the positive infinity from there
on. -/
theorem Rounds.finite_or_top (rounds : Rounds r x) (nonneg : 0 ≤ r) :
    r < overflowLimit ∧ x.isFinite ∨ overflowLimit ≤ r ∧ IsTop x := by
  obtain ⟨m, e, canonical, near, ⟨small, finite, _⟩ | ⟨large, top⟩⟩ := rounds.nonneg_cases nonneg
  · have unit : (2 : Rat) ^ e ≤ 2 ^ maxExponent := zpow_le_zpow_right₀ (by norm_num) small
    have below : r < overflowLimit :=
      (near.lt_limit canonical).trans_le (mul_le_mul_of_nonneg_left unit (by norm_num [mantissaLimit]))
    exact .inl ⟨below, finite⟩
  · exact .inr ⟨near.limit_le canonical (by decide) large, top⟩

/-- A rounded number is too large by half a unit at most: a part of the number, or of the smallest double. -/
theorem RoundsTo.magnitude_le (near : RoundsTo r m e) (canonical : Canonical m e) :
    magnitude m e ≤ r + r / mantissaLimit ∨ magnitude m e ≤ r + 2 ^ minExponent / 2 := by
  by_cases least : e = minExponent
  · subst least
    have low := (le_low m minExponent).trans near.ge_low
    refine .inr ?_
    rw [magnitude]
    linarith
  · have above : minExponent < e := lt_of_le_of_ne canonical.least (Ne.symm least)
    have full := canonical.full.resolve_right least
    have unit := two_zpow_pos e
    have limit : (2 : Rat) ≤ mantissaLimit := by norm_num [mantissaLimit]
    have low := near.ge_low
    have error : (magnitude m e - r) * mantissaLimit ≤ r := by
      rw [magnitude]
      by_cases power : 2 * m = mantissaLimit
      · -- below a power of two the doubles lie twice as close
        have half : 2 * (m : Rat) = mantissaLimit := by exact_mod_cast power
        rw [low_of_power power above] at low
        nlinarith
      · have more : (mantissaLimit : Rat) + 1 ≤ 2 * m := by
          exact_mod_cast Nat.lt_of_le_of_ne full (Ne.symm power)
        rw [low_of_not_power (fun both => power both.1)] at low
        nlinarith
    have part := (le_div_iff₀ (by linarith)).mpr error
    exact .inl (by linarith)

/-- A whole multiple of the unit is not changed by rounding. -/
theorem RoundsTo.eq_of_whole (near : RoundsTo (magnitude k e) m e) : k = m := by
  have unit := two_zpow_pos e
  have low := (le_low m e).trans near.ge_low
  have high := near.le_high
  rw [magnitude] at low high
  have atLeast : (m : Rat) - 1 / 2 ≤ k := le_of_mul_le_mul_right low unit
  have atMost : (k : Rat) ≤ m + 1 / 2 := le_of_mul_le_mul_right high unit
  have less : (m : Rat) < k + 1 := by linarith
  have less' : (k : Rat) < m + 1 := by linarith
  have : m < k + 1 := by exact_mod_cast less
  have : k < m + 1 := by exact_mod_cast less'
  omega

/-- Natural numbers that a mantissa has room for are converted exactly. -/
theorem value_ofNat (small : n ≤ mantissaLimit) : (ofNat n).isFinite ∧ value (ofNat n) = n := by
  obtain ⟨m, e, canonical, near, outcome⟩ := (rounds_ofNat n).nonneg_cases (by positivity)
  have cast : (n : Rat) ≤ mantissaLimit := by exact_mod_cast small
  have short : e ≤ 1 := by
    by_contra! large
    have beyond := near.limit_le canonical (by decide) large
    have limit : (2 : Rat) ≤ mantissaLimit := by norm_num [mantissaLimit]
    rw [zpow_one] at beyond
    linarith
  have exact : (n : Rat) = magnitude m e := by
    rcases le_or_gt e 0 with whole | large
    · -- the unit is a part of one
      have same : (n : Rat) = magnitude (n <<< (-e).toNat) e := by
        have arrived : e = 0 - (-e).toNat := by omega
        nth_rewrite 2 [arrived]
        rw [magnitude_shiftLeft, magnitude, zpow_zero, mul_one]
      rw [same] at near
      rw [same, near.eq_of_whole]
    · -- only the limit itself is that large, and it is even
      obtain rfl : e = 1 := by omega
      have atLeast := near.limit_le canonical (by decide) one_pos
      rw [zpow_zero, mul_one] at atLeast
      have next : (mantissaLimit : Rat) < n + 1 := by linarith
      have last : mantissaLimit < n + 1 := by exact_mod_cast next
      obtain rfl : n = mantissaLimit := by omega
      have same : (mantissaLimit : Rat) = magnitude (mantissaLimit / 2) 1 := by
        norm_num [magnitude, mantissaLimit]
      rw [same] at near
      rw [same, near.eq_of_whole]
  rcases outcome with ⟨_, finite, worth⟩ | ⟨large, _⟩
  · exact ⟨finite, worth.trans exact.symm⟩
  · exact absurd short (by rw [maxExponent] at large; omega)

/-- A positive double is no smaller than the smallest one. -/
theorem smallest_le_value (finite : x.isFinite) (positive : 0 < value x) : 2 ^ minExponent ≤ value x := by
  obtain ⟨m, e, nonzero, canonical, shape⟩ := unpacked_of_pos finite positive
  have one : (1 : Rat) ≤ m := by exact_mod_cast nonzero
  rw [value_of_unpacked shape]
  calc
    (2 : Rat) ^ minExponent ≤ 2 ^ e := zpow_le_zpow_right₀ (by norm_num) canonical.least
    _ ≤ magnitude m e := le_mul_of_one_le_left (two_zpow_pos e).le one

/-- A natural number times a positive double is less than one such double too large after rounding. -/
theorem value_ofNat_mul_le (small : n ≤ mantissaLimit) (finite : x.isFinite) (positive : 0 < value x)
    (bounded : (ofNat n * x).isFinite) : value (ofNat n * x) ≤ (n + 1) * value x := by
  obtain ⟨whole, exact⟩ := value_ofNat small
  have rounds := rounds_mul whole finite
  rw [exact] at rounds
  have nonneg : 0 ≤ n * value x := by positivity
  obtain ⟨m, e, canonical, near, ⟨_, _, worth⟩ | ⟨_, top⟩⟩ := rounds.nonneg_cases nonneg
  · rw [worth]
    rcases near.magnitude_le canonical with part | part
    · have few : (n : Rat) ≤ mantissaLimit := by exact_mod_cast small
      have share : n * value x / mantissaLimit ≤ value x := by
        rw [div_le_iff₀ (by norm_num [mantissaLimit]), mul_comm]
        exact mul_le_mul_of_nonneg_left few positive.le
      linarith
    · have unit := two_zpow_pos minExponent
      have least := smallest_le_value finite positive
      linarith
  · exact absurd bounded top.not_isFinite

end GraphCalc.Double
