import GraphCalc.Proofs.GridPoints
import GraphCalc.Proofs.InputLines

/-!
# What sampling returns

`Admits` says that a request passes all checks. Its samples are then a table over the points of its grid:
`Admits.sampled_eq`. So `sample_returns_exactly` can say which series comes of it, when one does, and what
comes of a step that is too small. The series strictly increases and stays in the range:
`samples_strictly_increase`.
-/

namespace GraphCalc

open Results

/-- A request to plot a formula over a grid that is given in doubles. -/
def PlotRequest.over (grid : Grid) (name : String) (body : Expr) : PlotRequest :=
  ⟨.formula body, .formula (.var name), .loose (.float grid.minimum), .loose (.float grid.maximum),
    .loose (.float grid.step)⟩

namespace Bindings

variable {E : Bindings} {settings : Settings} {request : PlotRequest} {name : String} {body : Expr}
  {grid : Grid} {series : Series}

theorem checkGrid_eq_ok_iff : E.checkGrid name grid = .ok () ↔ grid.Valid ∧ E.find? name = none := by
  rw [checkGrid_eq]
  constructor
  · intro checked
    split at checked
    · cases checked
    rename_i range
    obtain ⟨ordered, finite⟩ := not_or.mp range
    obtain ⟨low, high⟩ := not_not.mp finite
    split at checked
    · cases checked
    rename_i free
    split at checked
    · cases checked
    rename_i step
    exact ⟨⟨low, high, (Double.not_lt_iff_le high low).mp ordered, not_not.mp step⟩,
      by simpa [NameMap.contains] using free⟩
  · rintro ⟨⟨low, high, ordered, step⟩, free⟩
    have range : ¬(grid.maximum < grid.minimum ∨ ¬(grid.minimum.isFinite ∧ grid.maximum.isFinite)) :=
      not_or.mpr ⟨(Double.not_lt_iff_le high low).mpr ordered, not_not.mpr ⟨low, high⟩⟩
    rw [if_neg range, if_neg (by simp [NameMap.contains, free]), if_neg (not_not.mpr step)]

theorem checkBody_eq_ok_iff :
    checkBody E body = .ok () ↔ ∃ missing, E.unboundNames [] body = .ok missing ∧ missing.names = [] := by
  unfold checkBody
  rw [bind_eq_ok_iff]
  refine exists_congr fun missing => and_congr_right fun _ => ?_
  by_cases none : missing.names = []
  · simp [none, pure, Except.pure]
  · simp [none, throw, throwThe, MonadExceptOf.throw]

/-- The sampled name as a formula passes its check and has the value that it stands for. -/
theorem checkBody_self (E : Bindings) (name : String) (x : Float) :
    checkBody (E.insert name (.number x)) (.var name) = .ok () :=
  checkBody_eq_ok_iff.mpr ⟨∅, by simp [unboundNames_var, NameMap.find?_insert], rfl⟩

variable [MathLibrary]

/-- A request passes the checks, and these are what it asks to sample and where. -/
structure Admits (E : Bindings) (settings : Settings) (request : PlotRequest) (name : String) (body : Expr)
    (grid : Grid) : Prop where
  parameter : request.parameterName = .ok name
  formula : request.body.toExpr = .ok body
  range : E.gridOf request = .ok grid
  checked : E.checkGrid name grid = .ok ()
  complete : checkBody (E.insert name (.number settings.placeholder)) body = .ok ()

theorem valueAt_self (E : Bindings) (name : String) (x : Float) : E.valueAt name (.var name) x = .ok x := by
  simp [valueAt, toDouble_var, resolve, NameMap.find?_insert, Except.bind]

theorem Admits.valid (admits : E.Admits settings request name body grid) : grid.Valid :=
  (checkGrid_eq_ok_iff.mp admits.checked).1

/-- Where the grid is given in doubles, the checks are about the grid, the name and the formula. -/
theorem admits_over (valid : grid.Valid) (free : E.find? name = none)
    (complete : checkBody (E.insert name (.number settings.placeholder)) body = .ok ()) :
    E.Admits settings (.over grid name body) name body grid where
  parameter := rfl
  formula := rfl
  range := by simp [gridOf, PlotRequest.over, Operand.toExpr, bind, Except.bind, pure, Except.pure]
  checked := checkGrid_eq_ok_iff.mpr ⟨valid, free⟩
  complete := complete

/-- The samples are a table over the grid. -/
theorem Admits.sampled_eq (admits : E.Admits settings request name body grid) :
    E.sampled settings request = do return .ofPoints (← grid.tabulate (E.valueAt name body) 0) := by
  rw [sampled, admits.parameter, admits.formula, admits.range]
  simp only [bind, Except.bind, admits.checked, admits.complete]

theorem admits_of_sampled (sampled : E.sampled settings request = .ok series) :
    ∃ name body grid, E.Admits settings request name body grid := by
  obtain ⟨name, parameter, rest⟩ := bind_eq_ok_iff.mp sampled
  obtain ⟨body, formula, rest⟩ := bind_eq_ok_iff.mp rest
  obtain ⟨grid, range, rest⟩ := bind_eq_ok_iff.mp rest
  obtain ⟨_, checked, rest⟩ := bind_eq_ok_iff.mp rest
  obtain ⟨_, complete, _⟩ := bind_eq_ok_iff.mp rest
  exact ⟨name, body, grid, parameter, formula, range, checked, complete⟩

end Bindings

namespace Session

open GraphCalc.Bindings GraphCalc.Grid

variable {s : Session} {request : PlotRequest} {name : String} {body : Expr} {grid : Grid} {series : Series}

section

variable [MathLibrary]

theorem result_sample (s : Session) (request : PlotRequest) :
    ((sample request).runIn s).1 = s.bindings.sampled s.settings request := by
  obtain ⟨_, ran⟩ := runIn_sample request s
  rw [ran]

/-- The samples of an admitted request are the complete tables, and they have the points and values of these. -/
theorem sample_eq_ok_iff (admits : s.bindings.Admits s.settings request name body grid) :
    ((sample request).runIn s).1 = .ok series ↔
      ∃ n points, Traces grid (s.bindings.valueAt name body) n points ∧
        ¬grid.point n ≤ grid.maximum ∧ series = .ofPoints points := by
  rw [result_sample, admits.sampled_eq, bind_eq_ok_iff]
  constructor
  · rintro ⟨points, filled, same⟩
    cases same
    obtain ⟨n, traces, outside⟩ := tabulate_eq_ok_iff.mp filled
    exact ⟨n, points, traces, outside, rfl⟩
  · rintro ⟨n, points, traces, outside, rfl⟩
    exact ⟨points, tabulate_eq_ok_iff.mpr ⟨n, traces, outside⟩, rfl⟩

/-- The sampled name as a formula is worth the points themselves. -/
theorem sample_self (s : Session) (name : String) {n : Nat} (valid : grid.Valid)
    (free : s.bindings.find? name = none)
    (each : ∀ i < n, grid.point i ≤ grid.maximum ∧ grid.point i < grid.point (i + 1))
    (outside : ¬grid.point n ≤ grid.maximum) :
    ((sample (.over grid name (.var name))).runIn s).1 =
      .ok ⟨(List.range n).map grid.point, (List.range n).map grid.point⟩ := by
  have admits : s.bindings.Admits s.settings (.over grid name (.var name)) name (.var name) grid :=
    admits_over valid free (checkBody_self _ _ _)
  have traces := traces_of_total (valueAt_self s.bindings name) each
  exact (sample_eq_ok_iff admits).mpr ⟨n, _, traces, outside, by simp [Series.ofPoints]⟩

/-- What sampling returns, and when it does. A series that comes of a request is that of its grid: one point
for every index up to the first point after the minimum that is outside the range, each with the value of the
formula where the sampled name stands for that point, and everything else as before. There is such a point for
every request that passes the checks. A series then comes of it exactly if the formula has a value at every
point before and no point is equal to the next one. Where the values reach up to the first point that is, the
step is refused as too small there. -/
theorem sample_returns_exactly (s : Session) (request : PlotRequest) :
    (∀ series, ((sample request).runIn s).1 = .ok series → ∃ name body grid n,
      s.bindings.Admits s.settings request name body grid ∧ grid.Leaves n ∧
        series.xs = (List.range n).map grid.point ∧ series.ys.length = n ∧
        ∀ i (listed : i < series.ys.length),
          s.bindings.valueAt name body (grid.point i) = .ok series.ys[i]) ∧
    ∀ name body grid, s.bindings.Admits s.settings request name body grid → ∃ n, grid.Leaves n ∧
      ((∃ series, ((sample request).runIn s).1 = .ok series) ↔
        ∀ i < n, (∃ y, s.bindings.valueAt name body (grid.point i) = .ok y) ∧
          ¬(grid.point (i + 1) == grid.point i) = true) ∧
      ∀ k < n, (∀ i ≤ k, ∃ y, s.bindings.valueAt name body (grid.point i) = .ok y) →
        (∀ i < k, ¬(grid.point (i + 1) == grid.point i) = true) →
        (grid.point (k + 1) == grid.point k) = true →
        ((sample request).runIn s).1 = .error (.stepTooSmall grid.step (grid.point k)) := by
  constructor
  · intro series sampled
    obtain ⟨name, body, grid, admits⟩ := admits_of_sampled (result_sample s request ▸ sampled)
    obtain ⟨n, points, traces, outside, rfl⟩ := (sample_eq_ok_iff admits).mp sampled
    refine ⟨name, body, grid, n, admits, traces.leaves admits.valid outside, traces.xs_eq, ?_,
      fun i listed => ?_⟩
    · rw [Series.ofPoints, List.length_map, traces.length_eq]
    · rw [Series.ofPoints, List.length_map] at listed
      simp only [Series.ofPoints, List.getElem_map]
      exact traces.value_eq listed
  · intro name body grid admits
    have valid := admits.valid
    obtain ⟨n, leaves⟩ := valid.exists_leaves
    refine ⟨n, leaves, ⟨?_, fun each => ?_⟩, fun k before values distinct stall => ?_⟩
    · rintro ⟨series, sampled⟩ i before
      obtain ⟨m, points, traces, outside, _⟩ := (sample_eq_ok_iff admits).mp sampled
      obtain rfl : n = m := leaves.unique (traces.leaves valid outside)
      obtain ⟨_, value, advance⟩ := exists_traces_iff.mp ⟨points, traces⟩ i before
      exact ⟨value, (valid.advances_iff i).mp advance⟩
    · obtain ⟨points, traces⟩ := exists_traces_iff.mpr fun i before =>
        ⟨valid.inside_of_lt leaves before, (each i before).1, (valid.advances_iff i).mpr (each i before).2⟩
      exact ⟨_, (sample_eq_ok_iff admits).mpr ⟨n, points, traces, leaves.1.2, rfl⟩⟩
    · obtain ⟨points, traces⟩ := exists_traces_iff.mpr fun i earlier =>
        ⟨valid.inside_of_lt leaves (Nat.lt_trans earlier before), values i earlier.le,
          (valid.advances_iff i).mpr (distinct i earlier)⟩
      obtain ⟨y, value⟩ := values k (le_refl k)
      have stays : ¬grid.point k < grid.point (k + 1) := fun advance =>
        (valid.advances_iff k).mp advance stall
      rw [result_sample, admits.sampled_eq,
        traces.tabulate_of_stall (valid.inside_of_lt leaves before) value stays]
      rfl

end

/-- From 0 to 1 by 1 there are two samples. Beyond the 53rd power of two every other integer is a double, and
the step of 1 does not lead from this power to the next double. -/
theorem sample_returns_exactly_up_to_stall :
    let s : Session := ⟨∅, .single, {}, []⟩
    let request (minimum maximum : Float) : PlotRequest := .over ⟨minimum, maximum, 1⟩ "x" (.var "x")
    (∃ series, ((sample (request 0 1)).runIn s).1 = .ok series ∧ series.ys.length = 2) ∧
      ((sample (request 9007199254740991 9007199254740994)).runIn s).1 =
        .error (.stepTooSmall 1 9007199254740992) := by
  intro s request
  have admits (minimum maximum : Float) (valid : Grid.Valid ⟨minimum, maximum, 1⟩) :
      s.bindings.Admits s.settings (request minimum maximum) "x" (.var "x") ⟨minimum, maximum, 1⟩ :=
    admits_over valid rfl (checkBody_self _ _ _)
  constructor
  · have unit := admits 0 1 ⟨by decide, by decide, by decide, by decide⟩
    obtain ⟨returned, exactly⟩ := sample_returns_exactly s (request 0 1)
    obtain ⟨n, leaves, succeeds, _⟩ := exactly _ _ _ unit
    have two : Grid.Leaves ⟨0, 1, 1⟩ 2 := by
      refine ⟨⟨by decide, by decide⟩, fun k ⟨positive, outside⟩ => ?_⟩
      by_contra! before
      obtain rfl : k = 1 := by omega
      exact outside (by decide)
    obtain rfl : n = 2 := leaves.unique two
    obtain ⟨series, sampled⟩ := succeeds.mpr fun i before => by
      refine ⟨⟨_, valueAt_self _ _ _⟩, ?_⟩
      obtain rfl | rfl : i = 0 ∨ i = 1 := by omega
      · decide
      · decide
    obtain ⟨_, _, grid, m, asked, left, _, length, _⟩ := returned series sampled
    obtain rfl : grid = ⟨0, 1, 1⟩ := Except.ok.inj (asked.range.symm.trans unit.range)
    exact ⟨series, sampled, length.trans (left.unique two)⟩
  · have stalling := admits 9007199254740991 9007199254740994 ⟨by decide, by decide, by decide, by decide⟩
    obtain ⟨n, leaves, _, stalls⟩ := (sample_returns_exactly s _).2 _ _ _ stalling
    have later : 1 < n := by
      refine Nat.lt_of_le_of_ne leaves.1.1 ?_
      rintro rfl
      exact leaves.1.2 (by decide)
    refine stalls 1 later (fun i _ => ⟨_, valueAt_self _ _ _⟩) (fun i first => ?_) (by decide)
    obtain rfl : i = 0 := by omega
    decide

/-- On a valid grid the sampling loop may as well ask whether the next point is equal to the point. -/
theorem samplePoints_eq_of_valid [MathLibrary] (valid : grid.Valid) (name : String) (body : Expr) (i : Nat) :
    samplePoints name body grid i = (do
      if grid.point i ≤ grid.maximum then
        bindName name (.number (grid.point i))
        let y ← evaluate body
        if grid.point (i + 1) == grid.point i then throw (.stepTooSmall grid.step (grid.point i))
        else return (grid.point i, y) :: (← samplePoints name body grid (i + 1))
      else return []) := by
  have advances := valid.advances_iff i
  by_cases inside : grid.point i ≤ grid.maximum
  · rw [samplePoints, Grid.tabulate_inside _ inside, if_pos inside]
    simp only [evaluateAt, bind_assoc]
    refine bind_congr fun _ => bind_congr fun y => ?_
    by_cases stall : (grid.point (i + 1) == grid.point i) = true
    · rw [if_neg fun advance => advances.mp advance stall, if_pos stall]
    · rw [if_pos (advances.mpr stall), if_neg stall]
      rfl
  · rw [samplePoints, Grid.tabulate_outside _ inside, if_neg inside]

/-- Samples are taken at doubles that strictly increase and stay in the range, so none is taken twice.
Rounding may bring points together anywhere in the range. It is enough that the loop asks of each point
whether the next one is equal to it, as no point goes back. -/
theorem samples_strictly_increase [MathLibrary] (s : Session) (request : PlotRequest) (series : Series)
    (sampled : ((sample request).runIn s).1 = .ok series) :
    ∃ name body grid, s.bindings.Admits s.settings request name body grid ∧
      series.xs.Pairwise (· < ·) ∧ series.xs.Nodup ∧
      (∀ x ∈ series.xs, grid.minimum ≤ x ∧ x ≤ grid.maximum) ∧
      ∀ i, samplePoints name body grid i = (do
        if grid.point i ≤ grid.maximum then
          bindName name (.number (grid.point i))
          let y ← evaluate body
          if grid.point (i + 1) == grid.point i then throw (.stepTooSmall grid.step (grid.point i))
          else return (grid.point i, y) :: (← samplePoints name body grid (i + 1))
        else return []) := by
  obtain ⟨name, body, grid, admits⟩ := admits_of_sampled (result_sample s request ▸ sampled)
  obtain ⟨n, points, traces, outside, rfl⟩ := (sample_eq_ok_iff admits).mp sampled
  have valid := admits.valid
  have each := exists_traces_iff.mp ⟨points, traces⟩
  have xs : (Series.ofPoints points).xs = (List.range n).map grid.point := traces.xs_eq
  have increasing : (Series.ofPoints points).xs.Pairwise (· < ·) := by
    rw [xs, List.pairwise_map]
    refine List.pairwise_lt_range.imp_of_mem fun {i j} first _ before => ?_
    have advance := (each i (List.mem_range.mp first)).2.2
    exact Double.lt_of_lt_of_le advance (valid.point_le_point before)
  refine ⟨name, body, grid, admits, increasing, increasing.imp Double.ne_of_lt, fun x listed => ?_,
    samplePoints_eq_of_valid valid name body⟩
  rw [xs] at listed
  obtain ⟨i, member, rfl⟩ := List.mem_map.mp listed
  exact ⟨valid.minimum_le_point i, (each i (List.mem_range.mp member)).1⟩

/-- From -1 to 1 by 1 there are three samples. -/
theorem samples_strictly_increase_across_zero :
    let s : Session := ⟨∅, .single, {}, []⟩
    let request : PlotRequest := .over ⟨-1, 1, 1⟩ "x" (.var "x")
    let series : Series := ⟨[-1, 0, 1], [-1, 0, 1]⟩
    ((sample request).runIn s).1 = .ok series ∧ series.xs.Pairwise (· < ·) := by
  intro s request series
  have sampled : ((sample request).runIn s).1 = .ok series :=
    sample_self s "x" ⟨by decide, by decide, by decide, by decide⟩ rfl (n := 3) (by decide) (by decide)
  obtain ⟨_, _, _, _, increasing, _⟩ := samples_strictly_increase s request series sampled
  exact ⟨sampled, increasing⟩

end Session

end GraphCalc
