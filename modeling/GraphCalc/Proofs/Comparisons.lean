import GraphCalc.Double.Order

/-!
# Comparisons of doubles

A comparison between doubles that are numbers, infinities among them, is one between their ranks, and every
comparison that holds is between numbers. So the laws of order hold of doubles as far as what is not a number
lets them.
-/

namespace GraphCalc.Double

open Float.Model Float.Model.UnpackedFloat

variable {x y z : Float}

/-- A double that is a number or an infinity. -/
def IsNumber (x : Float) : Prop := x.toModel.unpack ≠ .notANumber

/-- Numbers compare, and as their ranks do. -/
theorem compare_eq_rank (hx : IsNumber x) (hy : IsNumber y) :
    x.toModel.compare y.toModel = some (compare (rank x) (rank y)) := by
  have comparable : ∃ o, x.toModel.compare y.toModel = some o := by
    show ∃ o, x.toModel.unpack.compare y.toModel.unpack = some o
    unfold IsNumber at hx hy
    generalize x.toModel.unpack = f at hx
    generalize y.toModel.unpack = g at hy
    cases f with
    | notANumber => exact absurd rfl hx
    | infinity s | zero s =>
      cases g with
      | notANumber => exact absurd rfl hy
      | infinity t | zero t => cases s <;> cases t <;> exact ⟨_, rfl⟩
      | finite t => cases s <;> cases t <;> exact ⟨_, rfl⟩
    | finite s =>
      cases g with
      | notANumber => exact absurd rfl hy
      | infinity t | zero t => cases s <;> cases t <;> exact ⟨_, rfl⟩
      | finite t => cases s <;> cases t <;> exact ⟨_, rfl⟩
  obtain ⟨o, compared⟩ := comparable
  rw [compared, compare_rank compared]

theorem compare_eq_none (none? : ¬(IsNumber x ∧ IsNumber y)) : x.toModel.compare y.toModel = none := by
  show x.toModel.unpack.compare y.toModel.unpack = none
  unfold IsNumber at none?
  generalize x.toModel.unpack = f at none?
  generalize y.toModel.unpack = g at none?
  cases f with
  | notANumber => rfl
  | _ =>
    cases g with
    | notANumber => cases ‹Sign› <;> rfl
    | _ => exact absurd ⟨nofun, nofun⟩ none?

theorem le_iff_rank_le : x ≤ y ↔ IsNumber x ∧ IsNumber y ∧ rank x ≤ rank y := by
  have unfolded : x ≤ y ↔ (x.toModel.compare y.toModel).any (·.isLE) = true := decide_eq_true_iff
  rw [unfolded]
  by_cases numbers : IsNumber x ∧ IsNumber y
  · simp [compare_eq_rank numbers.1 numbers.2, numbers, Int.isLE_compare]
  · rw [compare_eq_none numbers, ← and_assoc]
    simp [numbers]

theorem lt_iff_rank_lt : x < y ↔ IsNumber x ∧ IsNumber y ∧ rank x < rank y := by
  have unfolded : x < y ↔ (x.toModel.compare y.toModel == some .lt) = true := decide_eq_true_iff
  rw [unfolded]
  by_cases numbers : IsNumber x ∧ IsNumber y
  · simp [compare_eq_rank numbers.1 numbers.2, numbers, Int.compare_eq_lt]
  · rw [compare_eq_none numbers, ← and_assoc]
    simp [numbers]

theorem beq_iff_rank_eq : (x == y) = true ↔ IsNumber x ∧ IsNumber y ∧ rank x = rank y := by
  have unfolded : (x == y) = true ↔ (x.toModel.compare y.toModel == some .eq) = true := Iff.rfl
  rw [unfolded]
  by_cases numbers : IsNumber x ∧ IsNumber y
  · simp [compare_eq_rank numbers.1 numbers.2, numbers]
  · rw [compare_eq_none numbers, ← and_assoc]
    simp [numbers]

protected theorem le_of_lt (lt : x < y) : x ≤ y := by
  obtain ⟨hx, hy, less⟩ := lt_iff_rank_lt.mp lt
  exact le_iff_rank_le.mpr ⟨hx, hy, Int.le_of_lt less⟩

protected theorem le_trans (first : x ≤ y) (second : y ≤ z) : x ≤ z := by
  obtain ⟨hx, _, less⟩ := le_iff_rank_le.mp first
  obtain ⟨_, hz, less'⟩ := le_iff_rank_le.mp second
  exact le_iff_rank_le.mpr ⟨hx, hz, Int.le_trans less less'⟩

protected theorem lt_of_lt_of_le (first : x < y) (second : y ≤ z) : x < z := by
  obtain ⟨hx, _, less⟩ := lt_iff_rank_lt.mp first
  obtain ⟨_, hz, less'⟩ := le_iff_rank_le.mp second
  exact lt_iff_rank_lt.mpr ⟨hx, hz, Int.lt_of_lt_of_le less less'⟩

protected theorem ne_of_lt (lt : x < y) : x ≠ y := by
  rintro rfl
  obtain ⟨_, _, less⟩ := lt_iff_rank_lt.mp lt
  exact absurd less (Int.lt_irrefl _)

/-- Of two doubles in order the first is the smaller unless they are equal, as numbers. -/
theorem lt_iff_not_beq (le : x ≤ y) : x < y ↔ ¬(y == x) = true := by
  obtain ⟨hx, hy, less⟩ := le_iff_rank_le.mp le
  rw [lt_iff_rank_lt, beq_iff_rank_eq]
  simp only [hx, hy, true_and]
  omega

end GraphCalc.Double
