import GraphCalc.Proofs.RoundingIntervals

/-!
# Rounding by shifts

Double arithmetic rounds an exact result by shifting its mantissa to the place that a double has for it. Two
bits keep how what has been shifted out compares with half a unit: `Shifted`. They are all that rounding to
nearest needs, so the rounded mantissa is the one in whose rounding interval the exact result lies. That is
`exists_roundWithAccuracy` for results with enough bits and `exists_round` for all others.
-/

namespace GraphCalc.Double

open Float.Model Float.Model.UnpackedFloat

variable {m k rest : Nat} {e : Int} {em : ExtendedMantissa}

/-- What a mantissa is after a shift to the right: the mantissa that is left, and in the two bits how the rest
compares with nothing and with half a unit. -/
structure Shifted (m k : Nat) (em : ExtendedMantissa) (rest : Nat) : Prop where
  split : m = em.mantissa * 2 ^ k + rest
  small : rest < 2 ^ k
  round : em.roundBit = true ↔ 2 ^ k ≤ 2 * rest
  sticky : em.stickyBit = true ↔ rest ≠ 0 ∧ 2 * rest ≠ 2 ^ k

theorem Shifted.one (shifted : Shifted m k em rest) :
    Shifted m (k + 1) em.shiftRightOne (em.mantissa % 2 * 2 ^ k + rest) := by
  obtain ⟨split, small, round, sticky⟩ := shifted
  have double : 2 ^ (k + 1) = 2 * 2 ^ k := Nat.pow_succ'
  have halves := Nat.div_add_mod em.mantissa 2
  have bit := Nat.mod_lt em.mantissa (show 0 < 2 by decide)
  have sum : em.roundBit = true ∨ em.stickyBit = true ↔ rest ≠ 0 := by
    rw [round, sticky]
    omega
  refine ⟨?_, ?_, ?_, ?_⟩
  · rw [double]
    calc
      m = (2 * (em.mantissa / 2) + em.mantissa % 2) * 2 ^ k + rest := by rw [halves, ← split]
      _ = em.mantissa / 2 * (2 * 2 ^ k) + (em.mantissa % 2 * 2 ^ k + rest) := by ring
  all_goals
    simp only [ExtendedMantissa.shiftRightOne, bne_iff_ne, Bool.or_eq_true, sum, double]
    rcases Nat.mod_two_eq_zero_or_one em.mantissa with even | odd
    · rw [even]
      omega
    · rw [odd]
      omega

theorem exists_shifted (m k : Nat) : ∃ rest, Shifted m k (ExtendedMantissa.mk m false false >>> k) rest := by
  induction k with
  | zero => exact ⟨0, by constructor <;> simp [HShiftRight.hShiftRight, Nat.repeat]⟩
  | succ k ih =>
    obtain ⟨rest, shifted⟩ := ih
    exact ⟨_, shifted.one⟩

/-- The rounded mantissa is off by half a unit at most, and by less if it is odd. -/
theorem Shifted.near (shifted : Shifted m k em rest) :
    2 * m ≤ 2 * (em.roundedMantissa * 2 ^ k) + 2 ^ k ∧
      2 * (em.roundedMantissa * 2 ^ k) ≤ 2 * m + 2 ^ k ∧
      (em.roundedMantissa % 2 = 1 →
        2 * m < 2 * (em.roundedMantissa * 2 ^ k) + 2 ^ k ∧
          2 * (em.roundedMantissa * 2 ^ k) < 2 * m + 2 ^ k) := by
  obtain ⟨split, small, round, sticky⟩ := shifted
  obtain ⟨left, roundBit, stickyBit⟩ := em
  replace split : m = left * 2 ^ k + rest := split
  have next : (left + 1) * 2 ^ k = left * 2 ^ k + 2 ^ k := by ring
  cases roundBit with
  | false =>
    -- less than half a unit is lost
    have down : ExtendedMantissa.roundedMantissa ⟨left, false, stickyBit⟩ = left := by
      cases stickyBit <;> rfl
    rw [down]
    simp only [Bool.false_eq_true, false_iff] at round
    omega
  | true =>
    simp only [true_iff] at round
    cases stickyBit with
    | true =>
      have up : ExtendedMantissa.roundedMantissa ⟨left, true, true⟩ = left + 1 := rfl
      simp only [true_iff] at sticky
      rw [up, next]
      omega
    | false =>
      -- half a unit is lost, and the even neighbour is taken
      have even : ExtendedMantissa.roundedMantissa ⟨left, true, false⟩ = left + left % 2 := rfl
      simp only [Bool.false_eq_true, false_iff] at sticky
      rw [even]
      rcases Nat.mod_two_eq_zero_or_one left with zero | one
      · rw [zero, Nat.add_zero]
        omega
      · rw [one, next]
        omega

/-- The exponent that a double has for a magnitude. -/
def place (m : Nat) (e : Int) : Int := max (m.log2 + e - 52) minExponent

theorem targetExponent_totalExponent (m : Nat) (e : Int) :
    Format.binary64.targetExponent (totalExponent m e) = place m e := by
  have bits : (Format.binary64.mantissaBits : Int) = 53 := rfl
  have least : Format.binary64.minExponent = -1074 := rfl
  simp only [Format.targetExponent, totalExponent, place, minExponent, bits, least]
  omega

/-- The unpacked form of a mantissa and an exponent. -/
def unpacked (sign : Sign) (m : Nat) (e : Int) : UnpackedFloat :=
  if zero : m = 0 then .zero sign else .finite sign m e (Nat.pos_of_ne_zero zero)

theorem unpacked_of_ne_zero {sign : Sign} (nonzero : m ≠ 0) :
    unpacked sign m e = .finite sign m e (Nat.pos_of_ne_zero nonzero) := dif_neg nonzero

theorem shiftToTargetExponent_eq (m : Nat) (e : Int) :
    shiftToTargetExponent .binary64 m e .exact =
      (ExtendedMantissa.mk m false false >>> (place m e - e).toNat, e + (place m e - e).toNat) := by
  rw [← targetExponent_totalExponent]
  rfl

/-- A mantissa that fits stays as it is. -/
theorem shiftToTargetExponent_of_fits (fits : m < mantissaLimit) (least : minExponent ≤ e) :
    shiftToTargetExponent .binary64 m e .exact = (⟨m, false, false⟩, e) := by
  have bits : m.log2 ≤ 52 := by
    by_cases zero : m = 0
    · simp [zero]
    · exact Nat.le_of_lt_succ ((Nat.log2_lt zero).mpr fits)
  have still : (place m e - e).toNat = 0 := by
    simp only [place, minExponent] at least ⊢
    omega
  rw [shiftToTargetExponent_eq, still]
  simp [HShiftRight.hShiftRight, Nat.repeat]

/-- A mantissa that has become one bit too long through rounding is a power of two. -/
theorem shiftToTargetExponent_of_limit (least : minExponent ≤ e) :
    shiftToTargetExponent .binary64 mantissaLimit e .exact = (⟨mantissaLimit / 2, false, false⟩, e + 1) := by
  have bits : Nat.log2 mantissaLimit = 53 := by decide
  have one : (place mantissaLimit e - e).toNat = 1 := by
    simp only [place, bits, minExponent] at least ⊢
    omega
  rw [shiftToTargetExponent_eq, one]
  rfl

theorem roundWithAccuracy_eq (sign : Sign) (m : Nat) (e : Int) :
    roundWithAccuracy .binary64 sign m e .exact =
      let first := shiftToTargetExponent .binary64 m e .exact
      let second := shiftToTargetExponent .binary64 first.1.roundedMantissa first.2 .exact
      unpacked sign second.1.mantissa second.2 := rfl

/-- A shift to its place leaves a mantissa with all bits, unless the place is the least. -/
theorem bounds_of_place (positive : 0 < m) (arrived : e + k = place m e) :
    m < mantissaLimit * 2 ^ k ∧ (mantissaLimit * 2 ^ k ≤ 2 * m ∨ e + k = minExponent) := by
  have above : m < 2 ^ (m.log2 + 1) := Nat.lt_log2_self
  have below : 2 ^ m.log2 ≤ m := Nat.log2_self_le positive.ne'
  have limit : mantissaLimit = 2 ^ 53 := rfl
  rw [limit, ← Nat.pow_add]
  unfold place at arrived
  constructor
  · exact above.trans_le (Nat.pow_le_pow_right (by decide) (by omega))
  · by_cases least : e + k = minExponent
    · exact .inr least
    · have exact : 53 + k = m.log2 + 1 := by omega
      rw [exact, Nat.pow_succ]
      exact .inl (by omega)

/-- What rounds to a multiple of a unit rounds to that double, if it has enough bits. -/
theorem roundsTo_of_near {n : Nat} (below : 2 * m ≤ 2 * (n * 2 ^ k) + 2 ^ k)
    (above : 2 * (n * 2 ^ k) ≤ 2 * m + 2 ^ k)
    (strict : n % 2 = 1 → 2 * m < 2 * (n * 2 ^ k) + 2 ^ k ∧ 2 * (n * 2 ^ k) < 2 * m + 2 ^ k)
    (long : mantissaLimit * 2 ^ k ≤ 2 * m ∨ e + k = minExponent) :
    RoundsTo (magnitude m e) n (e + k) := by
  have unit := two_zpow_pos e
  have split : (2 : Rat) ^ (e + k) = 2 ^ k * 2 ^ e := by
    rw [zpow_add₀ (by norm_num), zpow_natCast, mul_comm]
  have scale {a b : Nat} (le : a ≤ b) : (a : Rat) * 2 ^ e ≤ b * 2 ^ e :=
    mul_le_mul_of_nonneg_right (by exact_mod_cast le) unit.le
  have high : magnitude m e ≤ (n + 1 / 2) * 2 ^ (e + k) := by
    have scaled := scale below
    push_cast at scaled
    rw [split, magnitude]
    linarith
  have low : (roundingInterval n (e + k)).low ≤ magnitude m e := by
    by_cases power : 2 * n = mantissaLimit ∧ minExponent < e + k
    · -- nothing below a power of two is shifted to it
      have full := scale (long.resolve_right power.2.ne')
      rw [← power.1] at full
      push_cast at full
      rw [low_of_power power.1 power.2, split, magnitude]
      nlinarith [mul_pos (pow_pos (two_pos : (0 : Rat) < 2) k) unit]
    · have scaled := scale above
      push_cast at scaled
      rw [low_of_not_power power, split, magnitude]
      linarith
  refine (contains_iff _).mpr ⟨low, high, fun open? => ?_⟩
  have odd : n % 2 = 1 := closed_eq_false_iff.mp open?
  have power : ¬(2 * n = mantissaLimit ∧ minExponent < e + k) := by
    rw [mantissaLimit]
    omega
  have scaleLt {a b : Nat} (lt : a < b) : (a : Rat) * 2 ^ e < b * 2 ^ e :=
    mul_lt_mul_of_pos_right (by exact_mod_cast lt) unit
  have strictHigh := scaleLt (strict odd).1
  have strictLow := scaleLt (strict odd).2
  push_cast at strictHigh strictLow
  rw [low_of_not_power power, high_eq, split, magnitude]
  constructor <;> linarith

/-- A mantissa one bit longer than a double has is half of one under the next exponent. -/
theorem RoundsTo.carry {r : Rat} (rounds : RoundsTo r mantissaLimit e) (least : minExponent ≤ e) :
    RoundsTo r (mantissaLimit / 2) (e + 1) := by
  have unit := two_zpow_pos e
  have half : 2 * (mantissaLimit / 2) = mantissaLimit := rfl
  have halfCast : 2 * ((mantissaLimit / 2 : Nat) : Rat) = mantissaLimit := by exact_mod_cast half
  have high := rounds.le_high
  have low := (le_low mantissaLimit e).trans rounds.ge_low
  refine (contains_iff _).mpr ⟨?_, ?_, fun odd => ?_⟩
  · rw [low_of_power half (by omega), two_zpow_succ]
    nlinarith
  · rw [high_eq, two_zpow_succ]
    nlinarith
  · cases closed_eq_false_iff.mp odd

/-- A mantissa shifted to its place and rounded has the magnitude in its interval, once a bit that rounding has
added is shifted out as well. -/
theorem exists_roundWithAccuracy (sign : Sign) (positive : 0 < m) (low : e ≤ place m e) :
    ∃ n d, Canonical n d ∧ RoundsTo (magnitude m e) n d ∧
      roundWithAccuracy .binary64 sign m e .exact = unpacked sign n d := by
  obtain ⟨k, arrived⟩ : ∃ k : Nat, e + k = place m e := ⟨(place m e - e).toNat, by omega⟩
  have amount : (place m e - e).toNat = k := by omega
  obtain ⟨rest, shifted⟩ := exists_shifted m k
  obtain ⟨short, long⟩ := bounds_of_place positive arrived
  have least : minExponent ≤ e + k := arrived ▸ le_max_right _ _
  obtain ⟨below, above, strict⟩ := shifted.near
  have rounds := roundsTo_of_near below above strict long
  rw [roundWithAccuracy_eq, shiftToTargetExponent_eq, amount]
  dsimp only
  generalize (ExtendedMantissa.mk m false false >>> k).roundedMantissa = n at *
  have unit := Nat.two_pow_pos k
  have fits : n ≤ mantissaLimit := by
    have : n * 2 ^ k < (mantissaLimit + 1) * 2 ^ k := by
      rw [Nat.succ_mul]
      omega
    exact Nat.le_of_lt_succ (Nat.lt_of_mul_lt_mul_right this)
  rcases Nat.lt_or_eq_of_le fits with fits | rfl
  · have full : mantissaLimit ≤ 2 * n ∨ e + k = minExponent := by
      refine long.imp_left fun full => ?_
      have : mantissaLimit * 2 ^ k < (2 * n + 2) * 2 ^ k := by
        rw [Nat.add_mul, Nat.mul_assoc]
        omega
      have := Nat.lt_of_mul_lt_mul_right this
      rw [mantissaLimit] at this ⊢
      omega
    exact ⟨n, e + k, ⟨fits, least, full⟩, rounds, by rw [shiftToTargetExponent_of_fits fits least]⟩
  · exact ⟨mantissaLimit / 2, e + k + 1, ⟨by decide, by omega, .inl (by decide)⟩, rounds.carry least,
      by rw [shiftToTargetExponent_of_limit least]⟩

theorem magnitude_shiftLeft (m k : Nat) (e : Int) : magnitude (m <<< k) (e - k) = magnitude m e := by
  rw [magnitude, magnitude, Nat.shiftLeft_eq, zpow_sub₀ (by norm_num), zpow_natCast]
  push_cast
  rw [mul_assoc, mul_div_cancel₀ _ (pow_ne_zero k two_ne_zero)]

/-- Rounding takes every positive magnitude to a double. -/
theorem exists_round (sign : Sign) (positive : 0 < m) (e : Int) :
    ∃ n d, Canonical n d ∧ RoundsTo (magnitude m e) n d ∧
      UnpackedFloat.round .binary64 sign m e = unpacked sign n d := by
  let k := (e - place m e).toNat
  have longer : 0 < m <<< k := by
    rw [Nat.shiftLeft_eq]
    positivity
  have bits : (m <<< k).log2 = m.log2 + k := by
    refine (Nat.log2_eq_iff longer.ne').mpr ?_
    rw [Nat.shiftLeft_eq, Nat.pow_add, Nat.add_right_comm, Nat.pow_add]
    exact ⟨Nat.mul_le_mul_right _ (Nat.log2_self_le positive.ne'),
      Nat.mul_lt_mul_of_pos_right Nat.lt_log2_self (Nat.two_pow_pos k)⟩
  have low : e - k ≤ place (m <<< k) (e - k) := by
    have moved : k = (e - max (m.log2 + e - 52) minExponent).toNat := rfl
    rw [place, bits]
    omega
  obtain ⟨n, d, canonical, rounds, same⟩ := exists_roundWithAccuracy sign longer low
  rw [magnitude_shiftLeft] at rounds
  refine ⟨n, d, canonical, rounds, ?_⟩
  rw [← same]
  unfold UnpackedFloat.round
  rw [targetExponent_totalExponent]
  rfl

end GraphCalc.Double
