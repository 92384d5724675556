import GraphCalc.Proofs.RoundingErrors
import GraphCalc.Session.Sampling

/-!
# The indices of samples

Each position of a sampling is computed from its index, which is converted to a double for that. An integer may
be too large to be converted, but no index of a sampling is: `samplePoints_eq` holds whatever fault stands for
it. The positions lead from one double to a larger one, so their indices are exact doubles, as `Grid.Reaches.le`
says; and `Double.ofInt?_natCast` converts integers far beyond that.
-/

namespace GraphCalc

namespace Double

/-- Integers with up to twice the bits of a mantissa are converted. -/
theorem ofInt?_natCast {n : Nat} (small : n < mantissaLimit * mantissaLimit) :
    ofInt? n = some (ofNat n) := by
  have bits : (n : Rat) < mantissaLimit * mantissaLimit := by exact_mod_cast small
  have room : (2 : Rat) ^ (54 : Int) ≤ 2 ^ maxExponent := zpow_le_zpow_right₀ (by norm_num) (by decide)
  have below : (n : Rat) < overflowLimit := by
    calc
      (n : Rat) < mantissaLimit * mantissaLimit := bits
      _ ≤ (mantissaLimit - 1 / 2) * 2 ^ (54 : Int) := by norm_num [mantissaLimit]
      _ ≤ overflowLimit := mul_le_mul_of_nonneg_left room (by norm_num [mantissaLimit])
  rcases (rounds_ofNat n).finite_or_top n.cast_nonneg with ⟨_, finite⟩ | ⟨beyond, _⟩
  · exact if_pos finite
  · exact absurd below (not_lt.mpr beyond)

end Double

namespace Grid

variable {grid : Grid} {i : Nat}

/-- A sampling gets to an index: every position before it is in the range and leads to a larger double. -/
inductive Reaches (grid : Grid) : Nat → Prop
  | start : Reaches grid 0
  | next {i : Nat} (reached : Reaches grid i) (inside : grid.point i ≤ grid.maximum)
      (advance : grid.point i < grid.point (i + 1)) : Reaches grid (i + 1)

theorem Reaches.advances (reaches : grid.Reaches i) : ∀ k < i, grid.point k < grid.point (k + 1) := by
  induction reaches with
  | start => exact fun k before => absurd before (Nat.not_lt_zero k)
  | next _ _ advance ih =>
    intro k before
    rcases Nat.lt_succ_iff_lt_or_eq.mp before with earlier | rfl
    · exact ih k earlier
    · exact advance

theorem point_of_pos (grid : Grid) (positive : 0 < i) :
    grid.point i = grid.minimum + Double.ofNat i * grid.step := by
  cases i with
  | zero => cases positive
  | succ i => rfl

/-- Every position is computed from another double than the one before only as long as the indices are exact:
the integer after the limit is converted to the same double as the limit. -/
theorem le_mantissaLimit_of_advances (advances : ∀ k < i, grid.point k < grid.point (k + 1)) :
    i ≤ Double.mantissaLimit := by
  by_contra! beyond
  have same : grid.point (Double.mantissaLimit + 1) = grid.point Double.mantissaLimit := by
    have converted : Double.ofNat (Double.mantissaLimit + 1) = Double.ofNat Double.mantissaLimit := rfl
    rw [point_of_pos grid (by decide), point_of_pos grid (by decide), converted]
  exact Double.ne_of_lt (advances Double.mantissaLimit beyond) same.symm

theorem Reaches.le (reaches : grid.Reaches i) : i ≤ Double.mantissaLimit :=
  le_mantissaLimit_of_advances reaches.advances

/-- The position of a sample, and a fault where its index is too large for a double. -/
def pointOr (fault : CalcError) (grid : Grid) : Nat → Except CalcError Float
  | 0 => .ok grid.minimum
  | i + 1 =>
    match Double.ofInt? (i + 1 : Nat) with
    | some index => .ok (grid.minimum + index * grid.step)
    | none => .error fault

theorem Reaches.pointOr_eq (reaches : grid.Reaches i) (fault : CalcError) :
    grid.pointOr fault (i + 1) = .ok (grid.point (i + 1)) := by
  have small : i + 1 < Double.mantissaLimit * Double.mantissaLimit := by
    have few := reaches.le
    rw [Double.mantissaLimit] at few ⊢
    omega
  rw [pointOr, Double.ofInt?_natCast small]
  rfl

end Grid

namespace Session

/-- At every index that it gets to, the sampling loop computes the next position from the next index, and
whatever fault stood for an index that is too large would make no difference. -/
theorem samplePoints_eq [MathLibrary] {grid : Grid} {i : Nat} (fault : CalcError) (reaches : grid.Reaches i)
    (name : String) (body : Expr) :
    samplePoints name body grid i = (do
      if grid.point i ≤ grid.maximum then
        bindName name (.number (grid.point i))
        let y ← evaluate body
        let following ← .ofExcept (grid.pointOr fault (i + 1))
        if grid.point i < following then
          return (grid.point i, y) :: (← samplePoints name body grid (i + 1))
        else throw (.stepTooSmall grid.step (grid.point i))
      else return []) := by
  rw [reaches.pointOr_eq]
  by_cases inside : grid.point i ≤ grid.maximum
  · rw [samplePoints, Grid.tabulate_inside _ inside, if_pos inside]
    simp only [evaluateAt, bind_assoc]
    rfl
  · rw [samplePoints, Grid.tabulate_outside _ inside, if_neg inside]

end Session

end GraphCalc
