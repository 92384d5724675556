import GraphCalc.Proofs.MonotoneArithmetic
import Mathlib

/-!
# Negated doubles

A negation changes the sign of a double and nothing else: `unpack_neg`. So it turns the order of doubles around, and
a second one undoes the first. What is not a number is its own negation.
-/

namespace GraphCalc.Double

open Float.Model Float.Model.UnpackedFloat

variable {x y : Float}

/-- A double is known by its unpacked form. -/
theorem eq_of_unpack_eq (same : x.toModel.unpack = y.toModel.unpack) : x = y := by
  have bits := (unpack_inj_of_valid x.toModel.valid y.toModel.valid (by decide)).mp same
  exact Float.toBits_inj.mp (UInt64.toBitVec_inj.mp bits)

theorem unpack_neg (x : Float) : (-x).toModel.unpack = x.toModel.unpack.neg := by
  show (Float.Model.pack x.toModel.unpack.neg).unpack = _
  cases shape : x.toModel.unpack with
  | notANumber => rfl
  | infinity sign => cases sign <;> rfl
  | zero sign => cases sign <;> rfl
  | finite sign m e positive =>
    obtain ⟨below, least, inside, full⟩ := unpack_finite_shape shape
    have canonical : Canonical m e := ⟨below, least, full⟩
    have packed : (Float.Model.pack (unpacked (-sign) m e)).unpack = saturated (-sign) m e :=
      unpack_pack canonical
    rw [saturated_of_le inside, unpacked_of_ne_zero positive.ne'] at packed
    exact packed

theorem isNumber_neg : IsNumber (-x) ↔ IsNumber x := by
  unfold IsNumber
  rw [unpack_neg]
  cases x.toModel.unpack <;> simp [UnpackedFloat.neg]

theorem rank_neg (x : Float) : rank (-x) = -rank x := by
  unfold rank
  rw [unpack_neg]
  cases x.toModel.unpack with
  | notANumber => rfl
  | zero => rfl
  | infinity sign => cases sign <;> rfl
  | finite sign m e positive =>
    cases sign
    · exact (neg_neg _).symm
    · rfl

protected theorem neg_neg (x : Float) : - -x = x := by
  refine eq_of_unpack_eq ?_
  rw [unpack_neg, unpack_neg]
  cases x.toModel.unpack with
  | notANumber => rfl
  | infinity sign | zero sign | finite sign => cases sign <;> rfl

theorem isNumber_zero : IsNumber 0 := isNumber_of_isFinite (by decide)

theorem zero_lt_iff_rank : 0 < x ↔ IsNumber x ∧ 0 < rank x := by
  have place : rank 0 = 0 := rfl
  rw [lt_iff_rank_lt, place]
  simp [isNumber_zero]

theorem lt_zero_iff_rank : x < 0 ↔ IsNumber x ∧ rank x < 0 := by
  have place : rank 0 = 0 := rfl
  rw [lt_iff_rank_lt, place]
  simp [isNumber_zero]

theorem neg_pos : 0 < -x ↔ x < 0 := by
  rw [zero_lt_iff_rank, lt_zero_iff_rank, isNumber_neg, rank_neg]
  simp

theorem neg_lt_zero : -x < 0 ↔ 0 < x := by
  rw [zero_lt_iff_rank, lt_zero_iff_rank, isNumber_neg, rank_neg]
  simp

end GraphCalc.Double
