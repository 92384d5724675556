import GraphCalc.Proofs.DoubleArithmetic

/-!
# Monotone arithmetic

Converting a larger natural number, adding the same number and multiplying by the same positive number keep the
order of doubles: `ofNat_le`, `add_le_add` and `mul_le_mul`. The factors and the summand that grows may be
infinite; the summand that stays is finite.
-/

namespace GraphCalc.Double

open Float.Model Float.Model.UnpackedFloat

variable {x y c : Float} {m n : Nat} {e d : Int} {sign : Sign}

/-- The positive infinity. -/
def IsTop (x : Float) : Prop := x.toModel.unpack = .infinity .positive

theorem isNumber_of_isFinite (finite : x.isFinite) : IsNumber x := (rounds_value finite).isNumber

theorem IsTop.isNumber (top : IsTop x) : IsNumber x := by
  rw [IsNumber, top]
  intro none
  cases none

theorem IsTop.rank_eq (top : IsTop x) : rank x = infiniteRank := by
  rw [rank, top]

theorem IsTop.not_isFinite (top : IsTop x) : ¬x.isFinite := by
  have unfolded : x.isFinite = x.toModel.unpack.isFinite := rfl
  rw [unfolded, top]
  decide

/-- Nothing is above the positive infinity. -/
theorem IsTop.le (top : IsTop y) (number : IsNumber x) : x ≤ y :=
  le_iff_rank_le.mpr ⟨number, top.isNumber, top.rank_eq ▸ (rank_bounds x).2⟩

theorem cappedRank_of_le (inside : e ≤ maxExponent) : cappedRank m e = magnitudeRank m e :=
  if_neg (Int.not_lt.mpr inside)

theorem eq_of_magnitudeRank_eq (cm : Canonical m e) (cn : Canonical n d)
    (same : magnitudeRank m e = magnitudeRank n d) : m = n ∧ e = d := by
  have := cm.below
  have := cn.below
  have := cm.least
  have := cn.least
  simp only [magnitudeRank, minExponent, mantissaLimit] at *
  omega

/-- Finite doubles with the same rank have the same value. -/
theorem value_eq_of_rank_eq (hx : x.isFinite) (hy : y.isFinite) (same : rank x = rank y) :
    value x = value y := by
  obtain ⟨signX, m, e, cm, insideX, shapeX⟩ := exists_unpacked hx
  obtain ⟨signY, n, d, cn, insideY, shapeY⟩ := exists_unpacked hy
  rw [rank_eq cm (shapeX.trans (saturated_of_le insideX).symm), cappedRank_of_le insideX,
    rank_eq cn (shapeY.trans (saturated_of_le insideY).symm), cappedRank_of_le insideY] at same
  rw [value_of_unpacked shapeX, value_of_unpacked shapeY]
  by_cases alike : signX = signY
  · subst alike
    have ranks : magnitudeRank m e = magnitudeRank n d := by
      cases signX <;> simp only [Sign.apply] at same <;> omega
    obtain ⟨rfl, rfl⟩ := eq_of_magnitudeRank_eq cm cn ranks
    rfl
  · -- a positive and a negative double of one rank are both zero
    have none : magnitudeRank m e = 0 ∧ magnitudeRank n d = 0 := by
      cases signX <;> cases signY <;> simp only [Sign.apply, reduceCtorEq, not_true] at same alike <;>
        omega
    simp only [magnitudeRank, Nat.add_eq_zero_iff] at none
    rw [none.1.2, none.2.2, signed_magnitude_zero, signed_magnitude_zero]

/-- The order of finite doubles is that of their values. -/
theorem le_iff_value_le (hx : x.isFinite) (hy : y.isFinite) : x ≤ y ↔ value x ≤ value y := by
  constructor
  · intro le
    by_contra! less
    have back : y ≤ x := (rounds_value hy).le (rounds_value hx) less.le
    obtain ⟨_, _, up⟩ := le_iff_rank_le.mp le
    obtain ⟨_, _, down⟩ := le_iff_rank_le.mp back
    exact absurd (value_eq_of_rank_eq hx hy (Int.le_antisymm up down)) less.ne'
  · exact (rounds_value hx).le (rounds_value hy)

theorem lt_iff_value_lt (hx : x.isFinite) (hy : y.isFinite) : x < y ↔ value x < value y := by
  rw [← not_le, ← le_iff_value_le hy hx, lt_iff_rank_lt, le_iff_rank_le]
  simp [isNumber_of_isFinite hx, isNumber_of_isFinite hy]

theorem not_lt_iff_le (hx : x.isFinite) (hy : y.isFinite) : ¬x < y ↔ y ≤ x := by
  rw [lt_iff_value_lt hx hy, le_iff_value_le hy hx, not_lt]

theorem value_zero : value 0 = 0 := by
  have shape : (0 : Float).toModel.unpack = unpacked .positive 0 minExponent := rfl
  rw [value_of_unpacked shape, signed_magnitude_zero]

/-- A double from zero on is a number from zero on, or the positive infinity. -/
theorem nonneg_cases (nonneg : 0 ≤ x) : (x.isFinite ∧ 0 ≤ value x) ∨ IsTop x := by
  obtain ⟨_, number, ranks⟩ := le_iff_rank_le.mp nonneg
  by_cases finite : x.isFinite
  · refine .inl ⟨finite, ?_⟩
    rw [← value_zero]
    exact (le_iff_value_le (by decide) finite).mp nonneg
  · refine .inr ?_
    cases shape : x.toModel.unpack with
    | notANumber => exact absurd shape number
    | infinity sign =>
      cases sign with
      | negative =>
        rw [rank, rank, shape] at ranks
        exact absurd ranks (by decide)
      | positive => exact shape
    | zero | finite =>
      refine absurd ?_ finite
      show x.toModel.unpack.isFinite = true
      rw [shape]
      rfl

theorem pos_cases (positive : 0 < x) : (x.isFinite ∧ 0 < value x) ∨ IsTop x := by
  refine (nonneg_cases (Double.le_of_lt positive)).imp_left fun ⟨bounded, _⟩ => ⟨bounded, ?_⟩
  rw [← value_zero]
  exact (lt_iff_value_lt (by decide) bounded).mp positive

theorem rank_lt_of_isFinite (finite : x.isFinite) : rank x < infiniteRank := by
  obtain ⟨sign, m, e, canonical, inside, shape⟩ := exists_unpacked finite
  have below := canonical.below
  rw [rank_eq canonical (shape.trans (saturated_of_le inside).symm), cappedRank_of_le inside]
  cases sign <;> simp only [Sign.apply, magnitudeRank, minExponent, mantissaLimit, infiniteRank,
    maxExponent] at * <;> omega

/-- Of two doubles in order, from zero on, both are numbers or the second is the positive infinity. -/
theorem le_cases (nonneg : 0 ≤ x) (le : x ≤ y) :
    (x.isFinite ∧ y.isFinite ∧ 0 ≤ value x ∧ value x ≤ value y) ∨ IsTop y := by
  refine (nonneg_cases (Double.le_trans nonneg le)).imp_left fun ⟨finiteY, _⟩ => ?_
  rcases nonneg_cases nonneg with ⟨finiteX, least⟩ | top
  · exact ⟨finiteX, finiteY, least, (le_iff_value_le finiteX finiteY).mp le⟩
  · have ranks := (le_iff_rank_le.mp le).2.2
    rw [top.rank_eq] at ranks
    exact absurd (rank_lt_of_isFinite finiteY) (Int.not_lt.mpr ranks)

/-- A positive number has a positive mantissa. -/
theorem unpacked_of_pos (finite : x.isFinite) (positive : 0 < value x) :
    ∃ m e, 0 < m ∧ Canonical m e ∧ x.toModel.unpack = unpacked .positive m e := by
  obtain ⟨sign, m, e, canonical, _, shape⟩ := exists_unpacked finite
  rw [value_of_unpacked shape] at positive
  cases sign with
  | positive =>
    refine ⟨m, e, Nat.pos_of_ne_zero ?_, canonical, shape⟩
    rintro rfl
    simp at positive
  | negative =>
    have := magnitude_nonneg m e
    rw [signed] at positive
    linarith

theorem isTop_pack : IsTop (.ofModel (.pack (.infinity .positive))) := rfl

theorem IsTop.add (finite : c.isFinite) (top : IsTop x) : IsTop (c + x) := by
  have sum : c + x = .ofModel (.pack (UnpackedFloat.add .binary64 c.toModel.unpack x.toModel.unpack)) := rfl
  obtain ⟨sign, m, e, _, _, shape⟩ := exists_unpacked finite
  rw [sum, top, shape]
  by_cases zero : m = 0
  · subst zero
    exact isTop_pack
  · rw [unpacked_of_ne_zero zero]
    exact isTop_pack

/-- A positive double times the positive infinity is the positive infinity, in either order. -/
theorem IsTop.mul (positive : 0 < x) (top : IsTop y) : IsTop (x * y) ∧ IsTop (y * x) := by
  have product (x y : Float) :
      x * y = .ofModel (.pack (UnpackedFloat.mul .binary64 x.toModel.unpack y.toModel.unpack)) := rfl
  rw [product, product, top]
  rcases pos_cases positive with ⟨bounded, above⟩ | other
  · obtain ⟨m, e, nonzero, _, shape⟩ := unpacked_of_pos bounded above
    rw [shape, unpacked_of_ne_zero nonzero.ne']
    exact ⟨isTop_pack, isTop_pack⟩
  · rw [other]
    exact ⟨isTop_pack, isTop_pack⟩

/-- A larger natural number is converted to a larger double. -/
theorem ofNat_le (le : m ≤ n) : ofNat m ≤ ofNat n :=
  (rounds_ofNat m).le (rounds_ofNat n) (by exact_mod_cast le)

theorem ofNat_pos (positive : 0 < n) : 0 < ofNat n := by
  have one : (0 : Float) < ofNat 1 := by decide
  exact Double.lt_of_lt_of_le one (ofNat_le positive)

theorem rounds_zero : Rounds 0 0 := by
  have rounds : Rounds (value 0) 0 := rounds_value (by decide)
  rwa [value_zero] at rounds

/-- A finite double plus one from zero on is no smaller. -/
theorem le_add (finite : c.isFinite) (nonneg : 0 ≤ x) : c ≤ c + x := by
  rcases nonneg_cases nonneg with ⟨bounded, least⟩ | top
  · exact (rounds_value finite).le (rounds_add finite bounded) (by linarith)
  · exact (top.add finite).le (isNumber_of_isFinite finite)

/-- Adding a finite double keeps the order from zero on. -/
theorem add_le_add (finite : c.isFinite) (nonneg : 0 ≤ x) (le : x ≤ y) : c + x ≤ c + y := by
  rcases le_cases nonneg le with ⟨finiteX, finiteY, _, values⟩ | top
  · exact (rounds_add finite finiteX).le (rounds_add finite finiteY) (by linarith)
  · obtain ⟨_, number, _⟩ := le_iff_rank_le.mp (le_add finite nonneg)
    exact (top.add finite).le number

theorem mul_nonneg (hx : 0 < x) (hy : 0 < y) : 0 ≤ x * y := by
  have zero : IsNumber 0 := rounds_zero.isNumber
  rcases pos_cases hx with ⟨finiteX, aboveX⟩ | top
  · rcases pos_cases hy with ⟨finiteY, aboveY⟩ | top
    · exact rounds_zero.le (rounds_mul finiteX finiteY) (by positivity)
    · exact (top.mul hx).1.le zero
  · exact (top.mul hy).2.le zero

/-- Multiplying by a positive double keeps the order of positive doubles. -/
theorem mul_le_mul (positive : 0 < c) (above : 0 < x) (le : x ≤ y) : x * c ≤ y * c := by
  obtain ⟨_, number, _⟩ := le_iff_rank_le.mp (mul_nonneg above positive)
  rcases le_cases (Double.le_of_lt above) le with ⟨finiteX, finiteY, _, values⟩ | top
  · rcases pos_cases positive with ⟨finite, factor⟩ | top
    · exact (rounds_mul finiteX finite).le (rounds_mul finiteY finite)
        (mul_le_mul_of_nonneg_right values factor.le)
    · exact (top.mul (Double.lt_of_lt_of_le above le)).1.le number
  · exact (top.mul positive).2.le number

end GraphCalc.Double
