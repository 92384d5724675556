import GraphCalc.Proofs.Results
import GraphCalc.Proofs.RoundingErrors
import GraphCalc.Proofs.Tabulation
import Mathlib.Algebra.Order.Archimedean.Basic
import Mathlib.Order.Bounds.Basic

/-!
# The points of a grid

Each point of a grid is computed from its index, with two roundings. The points never go back for that:
`Valid.point_le_point`. A step that does not lead to a larger double leads to the same one again, and in the end
the points leave the range.

A table is filled point by point, and `Traces` says how far: each point so far was in the range, had a value
and led to a larger one. A table is complete where a point is outside the range, and that is the only way to a
table: `tabulate_eq_ok_iff`.
-/

namespace GraphCalc.Grid

open Results

variable {grid : Grid} {f : Float → Except CalcError Float} {i j n : Nat} {points : List (Float × Float)}
  {y : Float} {error : CalcError}

/-- A range of finite doubles that is not empty, and a step that goes up. The step may be infinite. -/
structure Valid (grid : Grid) : Prop where
  minimum_finite : grid.minimum.isFinite
  maximum_finite : grid.maximum.isFinite
  ordered : grid.minimum ≤ grid.maximum
  step_pos : 0 < grid.step

/-- The points never go back. -/
theorem Valid.point_le_succ (valid : grid.Valid) (i : Nat) : grid.point i ≤ grid.point (i + 1) := by
  have offset (i : Nat) : 0 ≤ Double.ofNat (i + 1) * grid.step :=
    Double.mul_nonneg (Double.ofNat_pos i.succ_pos) valid.step_pos
  cases i with
  | zero => exact Double.le_add valid.minimum_finite (offset 0)
  | succ i =>
    have larger : Double.ofNat (i + 1) * grid.step ≤ Double.ofNat (i + 2) * grid.step :=
      Double.mul_le_mul valid.step_pos (Double.ofNat_pos i.succ_pos) (Double.ofNat_le (Nat.le_succ _))
    exact Double.add_le_add valid.minimum_finite (offset i) larger

theorem Valid.point_le_point (valid : grid.Valid) (le : i ≤ j) : grid.point i ≤ grid.point j := by
  induction le with
  | refl =>
    obtain ⟨number, _, _⟩ := Double.le_iff_rank_le.mp (valid.point_le_succ i)
    exact Double.le_iff_rank_le.mpr ⟨number, number, le_refl _⟩
  | step _ ih => exact Double.le_trans ih (valid.point_le_succ _)

theorem Valid.minimum_le_point (valid : grid.Valid) (i : Nat) : grid.minimum ≤ grid.point i := by
  have start : grid.point 0 = grid.minimum := rfl
  rw [← start]
  exact valid.point_le_point (Nat.zero_le i)

/-- A point leads to a larger one, or to one that is equal as a number. -/
theorem Valid.advances_iff (valid : grid.Valid) (i : Nat) :
    grid.point i < grid.point (i + 1) ↔ ¬(grid.point (i + 1) == grid.point i) = true :=
  Double.lt_iff_not_beq (valid.point_le_succ i)

/-- The points do not stay in the range. -/
theorem Valid.exists_outside (valid : grid.Valid) : ∃ n, 1 ≤ n ∧ ¬grid.point n ≤ grid.maximum := by
  obtain ⟨n, beyond⟩ := exists_nat_gt Double.overflowLimit
  have top : Double.IsTop (Double.ofNat n) := by
    rcases (Double.rounds_ofNat n).finite_or_top n.cast_nonneg with ⟨below, _⟩ | ⟨_, top⟩
    · exact absurd below beyond.not_gt
    · exact top
  cases n with
  | zero => exact absurd (Double.value_ofNat (Nat.zero_le _)).1 top.not_isFinite
  | succ n =>
    refine ⟨n + 1, by omega, fun inside => ?_⟩
    have last : Double.IsTop (grid.point (n + 1)) := (top.mul valid.step_pos).2.add valid.minimum_finite
    have ranks := (Double.le_iff_rank_le.mp inside).2.2
    rw [last.rank_eq] at ranks
    exact absurd (Double.rank_lt_of_isFinite valid.maximum_finite) (Int.not_lt.mpr ranks)

/-- The first point after the minimum that is outside the range. -/
def Leaves (grid : Grid) (n : Nat) : Prop := IsLeast {n | 1 ≤ n ∧ ¬grid.point n ≤ grid.maximum} n

theorem Valid.exists_leaves (valid : grid.Valid) : ∃ n, grid.Leaves n := by
  classical
  refine ⟨Nat.find valid.exists_outside, Nat.find_spec valid.exists_outside, fun n outside => ?_⟩
  exact Nat.find_min' valid.exists_outside outside

theorem Valid.inside_of_lt (valid : grid.Valid) (leaves : grid.Leaves n) (before : i < n) :
    grid.point i ≤ grid.maximum := by
  cases i with
  | zero => exact valid.ordered
  | succ i =>
    by_contra outside
    exact absurd (leaves.2 ⟨by omega, outside⟩) (Nat.not_le.mpr before)

/-- A table holds these samples before an index. -/
inductive Traces (grid : Grid) (f : Float → Except CalcError Float) : Nat → List (Float × Float) → Prop
  | start : Traces grid f 0 []
  | next {i : Nat} {points : List (Float × Float)} {y : Float} (earlier : Traces grid f i points)
      (inside : grid.point i ≤ grid.maximum) (value : f (grid.point i) = .ok y)
      (advance : grid.point i < grid.point (i + 1)) : Traces grid f (i + 1) (points ++ [(grid.point i, y)])

theorem Traces.tabulate_eq (traces : Traces grid f n points) :
    grid.tabulate f 0 = do return points ++ (← grid.tabulate f n) := by
  induction traces with
  | start => simp
  | next _ inside value advance ih =>
    rw [ih, tabulate_inside f inside, value]
    simp only [if_pos advance]
    cases grid.tabulate f _ <;> simp [bind, Except.bind, pure, Except.pure]

theorem Traces.xs_eq (traces : Traces grid f n points) :
    points.map (·.1) = (List.range n).map grid.point := by
  induction traces with
  | start => rfl
  | next _ _ _ _ ih => simp [List.range_succ, ih]

theorem Traces.length_eq (traces : Traces grid f n points) : points.length = n := by
  simpa using congrArg List.length traces.xs_eq

theorem Traces.value_eq (traces : Traces grid f n points) (listed : i < points.length) :
    f (grid.point i) = .ok points[i].2 := by
  induction traces with
  | start => cases listed
  | @next n points y earlier _ value _ ih =>
    rw [List.getElem_append]
    split
    · rename_i before
      exact ih before
    · rename_i last
      obtain rfl : i = n := by
        have length := earlier.length_eq
        simp only [List.length_append, List.length_singleton] at listed
        omega
      simpa using value

/-- A table has been filled up to an index exactly if every point before is in the range, has a value and
leads to a larger point. -/
theorem exists_traces_iff :
    (∃ points, Traces grid f n points) ↔
      ∀ i < n, grid.point i ≤ grid.maximum ∧ (∃ y, f (grid.point i) = .ok y) ∧
        grid.point i < grid.point (i + 1) := by
  constructor
  · rintro ⟨points, traces⟩ i before
    induction traces with
    | start => omega
    | next _ inside value advance ih =>
      rcases Nat.lt_succ_iff_lt_or_eq.mp before with earlier | rfl
      · exact ih earlier
      · exact ⟨inside, ⟨_, value⟩, advance⟩
  · intro each
    induction n with
    | zero => exact ⟨[], .start⟩
    | succ n ih =>
      obtain ⟨points, earlier⟩ := ih fun i before => each i (Nat.lt_succ_of_lt before)
      obtain ⟨inside, ⟨y, value⟩, advance⟩ := each n (Nat.lt_succ_self n)
      exact ⟨_, earlier.next inside value advance⟩

/-- A function that never fails has a table as far as the points advance in the range. -/
theorem traces_of_total {g : Float → Float} (total : ∀ x, f x = .ok (g x))
    (each : ∀ i < n, grid.point i ≤ grid.maximum ∧ grid.point i < grid.point (i + 1)) :
    Traces grid f n ((List.range n).map fun i => (grid.point i, g (grid.point i))) := by
  induction n with
  | zero => exact .start
  | succ n ih =>
    obtain ⟨inside, advance⟩ := each n (Nat.lt_succ_self n)
    have earlier := ih fun i before => each i (Nat.lt_succ_of_lt before)
    rw [List.range_succ, List.map_append]
    exact earlier.next inside (total _) advance

/-- Where a table is complete, the points leave the range. -/
theorem Traces.leaves (traces : Traces grid f n points) (valid : grid.Valid)
    (outside : ¬grid.point n ≤ grid.maximum) : grid.Leaves n := by
  have each := exists_traces_iff.mp ⟨points, traces⟩
  refine ⟨⟨?_, outside⟩, fun k ⟨_, beyond⟩ => ?_⟩
  · by_contra! first
    obtain rfl : n = 0 := by omega
    exact outside valid.ordered
  · by_contra! before
    exact beyond (each k before).1

/-- A table is complete at the first point outside the range. -/
theorem exists_complete {rest : List (Float × Float)} (traces : Traces grid f n points)
    (filled : grid.tabulate f n = .ok rest) :
    ∃ k, Traces grid f k (points ++ rest) ∧ ¬grid.point k ≤ grid.maximum := by
  fun_induction tabulate grid f n generalizing points rest with
  | case1 n inside ih =>
    obtain ⟨y, value, filled⟩ := bind_eq_ok_iff.mp filled
    by_cases advance : grid.point n < grid.point (n + 1)
    · rw [dif_pos advance] at filled
      obtain ⟨later, onwards, same⟩ := bind_eq_ok_iff.mp filled
      cases same
      simpa using ih advance (traces.next inside value advance) onwards
    · rw [dif_neg advance] at filled
      cases filled
  | case2 n outside =>
    cases filled
    exact ⟨n, by simpa using traces, outside⟩

theorem tabulate_eq_ok_iff :
    grid.tabulate f 0 = .ok points ↔ ∃ n, Traces grid f n points ∧ ¬grid.point n ≤ grid.maximum := by
  constructor
  · exact exists_complete .start
  · rintro ⟨n, traces, outside⟩
    rw [traces.tabulate_eq, tabulate_outside f outside]
    simp [bind, Except.bind, pure, Except.pure]

/-- A table ends with an error at a point that leads nowhere. -/
theorem Traces.tabulate_of_stall (traces : Traces grid f n points) (inside : grid.point n ≤ grid.maximum)
    (value : f (grid.point n) = .ok y) (stall : ¬grid.point n < grid.point (n + 1)) :
    grid.tabulate f 0 = .error (.stepTooSmall grid.step (grid.point n)) := by
  rw [traces.tabulate_eq, tabulate_inside f inside, value]
  simp [stall, bind, Except.bind, throw, throwThe, MonadExceptOf.throw]

end GraphCalc.Grid
