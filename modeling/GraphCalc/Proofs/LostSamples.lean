import GraphCalc.Proofs.SampleIndices
import GraphCalc.Proofs.SampledSeries

/-!
# Samples lost at the end of a range

A sampling stops where the computed point is outside the range. Compared with exact arithmetic it may miss the
last point of the range, where rounding has moved it outside, and not more than this one:
`at_most_one_sample_lost`.

That holds as long as the offsets from the minimum are finite. In a range that is wider than the largest double
an offset may be infinite where the exact point would still be inside, and then any number of points is lost:
`samples_lost_by_overflow`.
-/

namespace GraphCalc

open Double

namespace Grid

variable {grid : Grid} {n : Nat}

/-- Where the points of a grid leave the range after advancing up to there, the next exact point is outside the
range, too, unless the range is as wide as the doubles and the last offset is infinite. -/
theorem Valid.maximum_lt (valid : grid.Valid) (leaves : grid.Leaves n)
    (advances : ∀ i < n, grid.point i < grid.point (i + 1)) (finite : grid.step.isFinite)
    (bounded : (Double.ofNat n * grid.step).isFinite ∨
      value grid.maximum - value grid.minimum < overflowLimit) :
    value grid.maximum < value grid.minimum + (n + 1) * value grid.step := by
  obtain ⟨positive, outside⟩ := leaves.1
  rw [point_of_pos grid positive] at outside
  have few := le_mantissaLimit_of_advances advances
  obtain ⟨whole, exact⟩ := value_ofNat few
  have step : 0 < value grid.step := by
    rcases pos_cases valid.step_pos with ⟨_, above⟩ | top
    · exact above
    · exact absurd finite top.not_isFinite
  by_cases inside : (Double.ofNat n * grid.step).isFinite
  · have below := value_ofNat_mul_le few finite step inside
    by_contra! above
    have reached := (rounds_add valid.minimum_finite inside).le (rounds_value valid.maximum_finite) (by linarith)
    exact outside reached
  · have width := bounded.resolve_left inside
    have product := rounds_mul whole finite
    rw [exact] at product
    rcases product.finite_or_top (by positivity) with ⟨_, finite⟩ | ⟨beyond, _⟩
    · exact absurd finite inside
    · linarith

end Grid

namespace Session

open GraphCalc.Bindings GraphCalc.Grid

/-- Compared with exact arithmetic, a sampling misses one point of its range at most: if it returns `n`
points, the exact point after the `n`-th step and one more step is outside. This holds for every range that is
narrower than the doubles are, and for every other range if the last offset from the minimum is finite. -/
theorem at_most_one_sample_lost [MathLibrary] (s : Session) (request : PlotRequest) (series : Series)
    (sampled : ((sample request).runIn s).1 = .ok series) :
    ∃ name body grid, s.bindings.Admits s.settings request name body grid ∧
      (grid.step.isFinite →
        (Double.ofNat series.xs.length * grid.step).isFinite ∨
          value grid.maximum - value grid.minimum < overflowLimit →
        value grid.maximum < value grid.minimum + (series.xs.length + 1) * value grid.step) := by
  obtain ⟨name, body, grid, admits⟩ := admits_of_sampled (result_sample s request ▸ sampled)
  obtain ⟨n, points, traces, outside, rfl⟩ := (sample_eq_ok_iff admits).mp sampled
  have length : (Series.ofPoints points).xs.length = n := by
    rw [Series.ofPoints, List.length_map, traces.length_eq]
  rw [length]
  have each := exists_traces_iff.mp ⟨points, traces⟩
  exact ⟨name, body, grid, admits,
    admits.valid.maximum_lt (traces.leaves admits.valid outside) fun i before => (each i before).2.2⟩

/-- From -3 by the double after 1, the fourth point is the maximum, and rounding puts it after the maximum. It
is lost, and the next point is outside. -/
theorem at_most_one_sample_lost_by_rounding :
    let s : Session := ⟨∅, .single, {}, []⟩
    let grid : Grid := ⟨-3, .ofBits 0x3cc8000000000000, .ofBits 0x3ff0000000000001⟩
    ∃ series, ((sample (.over grid "x" (.var "x"))).runIn s).1 = .ok series ∧ series.xs.length = 3 ∧
      value grid.minimum + 3 * value grid.step = value grid.maximum ∧
      value grid.maximum < value grid.minimum + (3 + 1) * value grid.step := by
  intro s grid
  have valid : grid.Valid := ⟨by decide, by decide, by decide, by decide⟩
  have sampled := sample_self s "x" valid rfl (n := 3) (by decide) (by decide)
  have minimum : value (-3) = signed .negative (magnitude 6755399441055744 (-51)) := value_of_unpacked rfl
  have maximum : value (.ofBits 0x3cc8000000000000) = signed .positive (magnitude 6755399441055744 (-103)) :=
    value_of_unpacked rfl
  have step : value (.ofBits 0x3ff0000000000001) = signed .positive (magnitude 4503599627370497 (-52)) :=
    value_of_unpacked rfl
  refine ⟨_, sampled, rfl, ?_, ?_⟩
  · simp only [grid, minimum, maximum, step, signed, magnitude]
    norm_num
  · obtain ⟨_, _, other, asked, onlyOne⟩ := at_most_one_sample_lost s _ _ sampled
    have admits : s.bindings.Admits s.settings (.over grid "x" (.var "x")) "x" (.var "x") grid :=
      admits_over valid rfl (checkBody_self _ _ _)
    obtain rfl : other = grid := Except.ok.inj (asked.range.symm.trans admits.range)
    exact_mod_cast onlyOne (by decide) (.inl (by decide))

/-- From -1.7e308 to 1.7e308 by 1e308 there are four points in the range, and two of them are lost: the second
offset from the minimum is infinite. -/
theorem samples_lost_by_overflow :
    let s : Session := ⟨∅, .single, {}, []⟩
    let grid : Grid :=
      ⟨.ofBits 0xffee42d130773b76, .ofBits 0x7fee42d130773b76, .ofBits 0x7fe1ccf385ebc8a0⟩
    let request : PlotRequest := .over grid "x" (.var "x")
    s.bindings.Admits s.settings request "x" (.var "x") grid ∧ grid.step.isFinite ∧
      ∃ series, ((sample request).runIn s).1 = .ok series ∧ series.xs.length = 2 ∧
        ¬value grid.maximum < value grid.minimum + (2 + 1) * value grid.step := by
  intro s grid request
  have valid : grid.Valid := ⟨by decide, by decide, by decide, by decide⟩
  have sampled := sample_self s "x" valid rfl (n := 2) (by decide) (by decide)
  have minimum : value (.ofBits 0xffee42d130773b76) =
      signed .negative (magnitude 8517715530038134 maxExponent) :=
    value_of_unpacked rfl
  have maximum : value (.ofBits 0x7fee42d130773b76) =
      signed .positive (magnitude 8517715530038134 maxExponent) :=
    value_of_unpacked rfl
  have step : value (.ofBits 0x7fe1ccf385ebc8a0) = signed .positive (magnitude 5010420900022432 maxExponent) :=
    value_of_unpacked rfl
  refine ⟨admits_over valid rfl (checkBody_self _ _ _), by decide, _, sampled, rfl, ?_⟩
  have unit := two_zpow_pos maxExponent
  simp only [grid, minimum, maximum, step, signed, magnitude, Nat.cast_ofNat]
  linarith

end Session

end GraphCalc
