import GraphCalc.Proofs.Packing

/-!
# Double arithmetic

A finite double is a rational number, its `value`. Sums and products of finite doubles are the doubles that
the exact sums and products round to, and so are the doubles of natural numbers: `rounds_add`, `rounds_mul`
and `rounds_ofNat`. Since rounding keeps the order, `Rounds.le`, so do adding one number and multiplying by a
positive one, infinities included.
-/

namespace GraphCalc.Double

open Float.Model Float.Model.UnpackedFloat

variable {x y z : Float} {r s : Rat} {m n : Nat} {e d : Int} {sign : Sign}

def signed : Sign → Rat → Rat
  | .negative, r => -r
  | .positive, r => r

/-- The number that a finite double is; zero stands for all that is not finite. -/
def value (x : Float) : Rat :=
  match x.toModel.unpack with
  | .finite sign m e _ => signed sign (magnitude m e)
  | _ => 0

/-- A number rounds to a double, which is an infinity where the exponent would be too large. -/
def Rounds (r : Rat) (x : Float) : Prop :=
  ∃ sign m e, Canonical m e ∧ RoundsTo (signed sign r) m e ∧ x.toModel.unpack = saturated sign m e

@[simp] theorem signed_signed (sign : Sign) (r : Rat) : signed sign (signed sign r) = r := by
  cases sign <;> simp [signed]

@[simp] theorem signed_magnitude_zero (sign : Sign) (e : Int) : signed sign (magnitude 0 e) = 0 := by
  cases sign <;> simp [signed, magnitude]

theorem signed_mul (sign other : Sign) (r s : Rat) :
    signed (sign * other) (signed sign r * signed other s) = r * s := by
  cases sign <;> cases other
  · show -r * -s = r * s
    ring
  · show -(-r * s) = r * s
    ring
  · show -(r * -s) = r * s
    ring
  · rfl

theorem value_of_unpacked (shape : x.toModel.unpack = unpacked sign m e) :
    value x = signed sign (magnitude m e) := by
  unfold value
  rw [shape]
  by_cases zero : m = 0
  · subst zero
    rw [signed_magnitude_zero]
    rfl
  · rw [unpacked_of_ne_zero zero]

theorem Rounds.isNumber (rounds : Rounds r x) : IsNumber x := by
  obtain ⟨_, _, _, _, _, shape⟩ := rounds
  exact isNumber_of_saturated shape

/-- A finite double is what its value rounds to. -/
theorem rounds_value (finite : x.isFinite) : Rounds (value x) x := by
  obtain ⟨sign, m, e, canonical, inside, shape⟩ := exists_unpacked finite
  refine ⟨sign, m, e, canonical, ?_, shape.trans (saturated_of_le inside).symm⟩
  rw [value_of_unpacked shape, signed_signed]
  exact roundsTo_magnitude m e

/-- Nothing but zero rounds to a double and is at most what rounds to zero. -/
theorem eq_zero_of_le (cm : Canonical m e) (rm : RoundsTo r m e) (cn : Canonical 0 d)
    (sn : RoundsTo s 0 d) (le : r ≤ s) : m = 0 := by
  have ranks := magnitudeRank_le_of_mem cm rm cn sn le
  rw [cn.exponent_of_zero] at ranks
  simp only [magnitudeRank, minExponent, mantissaLimit] at ranks
  omega

/-- A number that rounds upwards from zero is at most one that rounds downwards only if both round to zero. -/
theorem eq_zero_of_signs (cm : Canonical m e) (rm : RoundsTo r m e) (cn : Canonical n d)
    (sn : RoundsTo (-s) n d) (le : r ≤ s) : m = 0 ∧ n = 0 := by
  rcases Nat.eq_zero_or_pos m with rfl | positive
  · exact ⟨rfl, eq_zero_of_le cn sn cm rm.neg_of_zero (neg_le_neg le)⟩
  · have above := rm.pos positive
    rcases Nat.eq_zero_or_pos n with rfl | other
    · exact ⟨eq_zero_of_le cm rm cn (neg_neg s ▸ sn.neg_of_zero) le, rfl⟩
    · have below := sn.pos other
      linarith

theorem Rounds.rank_le (rx : Rounds r x) (sy : Rounds s y) (le : r ≤ s) : rank x ≤ rank y := by
  obtain ⟨signX, m, e, cm, rm, shapeX⟩ := rx
  obtain ⟨signY, n, d, cn, sn, shapeY⟩ := sy
  rw [rank_eq cm shapeX, rank_eq cn shapeY]
  cases signX with
  | positive =>
    cases signY with
    | positive =>
      have ranks := cappedRank_le cm cn (magnitudeRank_le_of_mem cm rm cn sn le)
      exact Int.ofNat_le.mpr ranks
    | negative =>
      obtain ⟨rfl, rfl⟩ := eq_zero_of_signs cm rm cn sn le
      rw [cm.exponent_of_zero, cn.exponent_of_zero]
      decide
  | negative =>
    cases signY with
    | positive =>
      show -(cappedRank m e : Int) ≤ cappedRank n d
      omega
    | negative =>
      have ranks := cappedRank_le cn cm (magnitudeRank_le_of_mem cn sn cm rm (neg_le_neg le))
      show -(cappedRank m e : Int) ≤ -(cappedRank n d : Int)
      omega

/-- Rounding keeps the order. -/
theorem Rounds.le (rx : Rounds r x) (sy : Rounds s y) (le : r ≤ s) : x ≤ y :=
  le_iff_rank_le.mpr ⟨rx.isNumber, sy.isNumber, rx.rank_le sy le⟩

theorem rounds_pack (canonical : Canonical m e) (rounds : RoundsTo (signed sign r) m e) :
    Rounds r (.ofModel (.pack (unpacked sign m e))) :=
  ⟨sign, m, e, canonical, rounds, unpack_pack canonical⟩

theorem rounds_pack_magnitude (canonical : Canonical m e) :
    Rounds (signed sign (magnitude m e)) (.ofModel (.pack (unpacked sign m e))) :=
  rounds_pack canonical (by rw [signed_signed]; exact roundsTo_magnitude m e)

theorem rounds_pack_zero (sign : Sign) : Rounds 0 (.ofModel (.pack (.zero sign))) := by
  have form : UnpackedFloat.zero sign = unpacked sign 0 minExponent := rfl
  rw [form, ← signed_magnitude_zero sign minExponent]
  exact rounds_pack_magnitude .zero

/-- A signed mantissa is rounded as the number that it is. -/
theorem rounds_normalize (n : Int) (e : Int) (zeroSign : Sign) :
    Rounds (n * 2 ^ e) (.ofModel (.pack (UnpackedFloat.normalize .binary64 n e zeroSign))) := by
  unfold UnpackedFloat.normalize
  cases compared : compare n 0 with
  | lt =>
    have negative := Int.compare_eq_lt.mp compared
    obtain ⟨m, d, canonical, rounds, same⟩ := exists_round .negative (m := (-n).toNat) (by omega) e
    rw [same]
    refine rounds_pack canonical ?_
    have cast : ((-n).toNat : Rat) = -n := by exact_mod_cast Int.toNat_of_nonneg (by omega)
    rw [magnitude, cast] at rounds
    rwa [signed, ← neg_mul]
  | eq =>
    rw [Int.compare_eq_eq.mp compared]
    rw [Int.cast_zero, zero_mul]
    exact rounds_pack_zero zeroSign
  | gt =>
    have positive := Int.compare_eq_gt.mp compared
    obtain ⟨m, d, canonical, rounds, same⟩ := exists_round .positive (m := n.toNat) (by omega) e
    rw [same]
    refine rounds_pack canonical ?_
    have cast : (n.toNat : Rat) = n := by exact_mod_cast Int.toNat_of_nonneg (by omega)
    rwa [magnitude, cast] at rounds

/-- The double of a natural number is the one that it rounds to. -/
theorem rounds_ofNat (n : Nat) : Rounds n (ofNat n) := by
  have rounds := rounds_normalize n 0 .positive
  rwa [zpow_zero, mul_one, Int.cast_natCast] at rounds

/-- Under a smaller exponent a signed mantissa is larger and the number the same. -/
theorem apply_decreaseExponent (sign : Sign) (m : Nat) (least : d ≤ e) :
    (sign.apply (decreaseExponent m e d).1 : Rat) * 2 ^ d = signed sign (magnitude m e) := by
  have arrived : e - (e - d).toNat = d := by omega
  have same := magnitude_shiftLeft m (e - d).toNat e
  rw [arrived] at same
  rw [← same]
  cases sign with
  | positive => rfl
  | negative =>
    show ((-((m <<< (e - d).toNat : Nat) : Int) : Int) : Rat) * 2 ^ d = -magnitude _ d
    rw [Int.cast_neg, Int.cast_natCast, neg_mul]
    rfl

/-- Sums round once. -/
theorem rounds_add (hx : x.isFinite) (hy : y.isFinite) : Rounds (value x + value y) (x + y) := by
  obtain ⟨signX, m, e, cm, _, shapeX⟩ := exists_unpacked hx
  obtain ⟨signY, n, d, cn, _, shapeY⟩ := exists_unpacked hy
  have sum : x + y = .ofModel (.pack (UnpackedFloat.add .binary64 x.toModel.unpack y.toModel.unpack)) := rfl
  rw [sum, value_of_unpacked shapeX, value_of_unpacked shapeY, shapeX, shapeY]
  by_cases zeroX : m = 0
  · subst zeroX
    rw [signed_magnitude_zero, zero_add]
    by_cases zeroY : n = 0
    · subst zeroY
      rw [signed_magnitude_zero]
      cases signX <;> cases signY <;> exact rounds_pack_zero _
    · have same : UnpackedFloat.add .binary64 (unpacked signX 0 e) (unpacked signY n d) =
          unpacked signY n d := by
        rw [unpacked_of_ne_zero zeroY]
        rfl
      rw [same]
      exact rounds_pack_magnitude cn
  · by_cases zeroY : n = 0
    · subst zeroY
      have same : UnpackedFloat.add .binary64 (unpacked signX m e) (unpacked signY 0 d) =
          unpacked signX m e := by
        rw [unpacked_of_ne_zero zeroX]
        rfl
      rw [signed_magnitude_zero, add_zero, same]
      exact rounds_pack_magnitude cm
    · have same : UnpackedFloat.add .binary64 (unpacked signX m e) (unpacked signY n d) =
          UnpackedFloat.normalize .binary64
            (signX.apply (decreaseExponent m e (min e d)).1 + signY.apply (decreaseExponent n d (min e d)).1)
            (min e d) .positive := by
        rw [unpacked_of_ne_zero zeroX, unpacked_of_ne_zero zeroY]
        rfl
      have rounds := rounds_normalize
        (signX.apply (decreaseExponent m e (min e d)).1 + signY.apply (decreaseExponent n d (min e d)).1)
        (min e d) .positive
      rwa [Int.cast_add, add_mul, apply_decreaseExponent signX m (min_le_left e d),
        apply_decreaseExponent signY n (min_le_right e d), ← same] at rounds

/-- A product has as many bits as one of its factors, so its place is not below it. -/
theorem le_place_mul (cm : Canonical m e) (cn : Canonical n d) (hm : m ≠ 0) (hn : n ≠ 0) :
    e + d ≤ place (m * n) (e + d) := by
  have positive : m * n ≠ 0 := Nat.mul_ne_zero hm hn
  have enough (full : 2 ^ 52 ≤ m * n) : e + d ≤ place (m * n) (e + d) := by
    have bits := (Nat.le_log2 positive).mpr full
    unfold place
    omega
  have fullM := cm.full
  have fullN := cn.full
  rw [mantissaLimit] at fullM fullN
  rcases fullM with fullM | leastM
  · exact enough (by nlinarith [Nat.pos_of_ne_zero hn])
  · rcases fullN with fullN | leastN
    · exact enough (by nlinarith [Nat.pos_of_ne_zero hm])
    · rw [leastM, leastN]
      exact (show minExponent + minExponent ≤ minExponent by decide).trans (le_max_right _ _)

/-- Products round once. -/
theorem rounds_mul (hx : x.isFinite) (hy : y.isFinite) : Rounds (value x * value y) (x * y) := by
  obtain ⟨signX, m, e, cm, _, shapeX⟩ := exists_unpacked hx
  obtain ⟨signY, n, d, cn, _, shapeY⟩ := exists_unpacked hy
  have product : x * y = .ofModel (.pack (UnpackedFloat.mul .binary64 x.toModel.unpack y.toModel.unpack)) := rfl
  rw [product, value_of_unpacked shapeX, value_of_unpacked shapeY, shapeX, shapeY]
  by_cases zero : m = 0 ∨ n = 0
  · have none : signed signX (magnitude m e) * signed signY (magnitude n d) = 0 := by
      rcases zero with rfl | rfl <;> simp
    have same : UnpackedFloat.mul .binary64 (unpacked signX m e) (unpacked signY n d) =
        .zero (signX * signY) := by
      by_cases zeroX : m = 0
      · subst zeroX
        by_cases zeroY : n = 0
        · subst zeroY
          rfl
        · rw [unpacked_of_ne_zero zeroY]
          rfl
      · obtain rfl : n = 0 := zero.resolve_left zeroX
        rw [unpacked_of_ne_zero zeroX]
        rfl
    rw [none, same]
    exact rounds_pack_zero _
  · obtain ⟨zeroX, zeroY⟩ := not_or.mp zero
    obtain ⟨k, f, canonical, rounds, rounded⟩ := exists_roundWithAccuracy (signX * signY)
      (Nat.mul_pos (Nat.pos_of_ne_zero zeroX) (Nat.pos_of_ne_zero zeroY)) (le_place_mul cm cn zeroX zeroY)
    have same : UnpackedFloat.mul .binary64 (unpacked signX m e) (unpacked signY n d) =
        unpacked (signX * signY) k f := by
      rw [← rounded]
      rw [unpacked_of_ne_zero zeroX, unpacked_of_ne_zero zeroY]
      rfl
    rw [same]
    refine rounds_pack canonical ?_
    have exact : magnitude (m * n) (e + d) = magnitude m e * magnitude n d := by
      rw [magnitude, magnitude, magnitude, zpow_add₀ (by norm_num), Nat.cast_mul]
      ring
    rwa [signed_mul, ← exact]

end GraphCalc.Double
