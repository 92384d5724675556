import GraphCalc.Double.Basic

/-!
# The order of doubles

`rank` numbers the doubles along the line, both zeros in one place. `rank_lt_rank` and `rank_le_rank`
say that it follows the comparisons, so a walk that keeps moving to a strictly larger double and stays
below a bound takes finitely many steps. Nothing is said about doubles that are not a number, which
compare with none.
-/

namespace GraphCalc.Double

/-- The rank of a magnitude: the exponent counts first, then the mantissa. -/
def magnitudeRank (mantissa : Nat) (exponent : Int) : Nat :=
  (exponent - minExponent).toNat * mantissaLimit + mantissa

/-- A rank beyond those of all finite doubles. -/
def infiniteRank : Nat := 2048 * mantissaLimit

/-- The place of a double in numerical order, with `0` for both zeros and for what is not a number. -/
def rank (x : Float) : Int :=
  match x.toModel.unpack with
  | .notANumber => 0
  | .infinity .negative => -(infiniteRank : Int)
  | .infinity .positive => infiniteRank
  | .zero _ => 0
  | .finite .negative m e _ => -(magnitudeRank m e : Int)
  | .finite .positive m e _ => magnitudeRank m e

open Float.Model Float.Model.UnpackedFloat in
/-- The mantissa and the exponent of a finite double lie within the format, and the mantissa has all its bits
unless the exponent is the least. -/
theorem unpack_finite_shape {x : Float.Model} {s : Sign} {m : Nat} {e : Int} {pos : 0 < m}
    (eq : x.unpack = .finite s m e pos) :
    m < mantissaLimit ∧ -1074 ≤ e ∧ e ≤ 971 ∧ (mantissaLimit ≤ 2 * m ∨ e = -1074) := by
  unfold mantissaLimit
  have exponentBound := (@unpackExponent .binary64 x.toBits.toBitVec).isLt
  have mantissaBound := (@unpackMantissa .binary64 x.toBits.toBitVec).isLt
  unfold Float.Model.unpack UnpackedFloat.unpack at eq
  dsimp only [Format.exponentBias, Nat.reducePow, Nat.reduceSub] at eq exponentBound mantissaBound
  by_cases allOnes : @unpackExponent .binary64 x.toBits.toBitVec = -1#11
  · rw [if_pos allOnes] at eq
    by_cases isZero : @unpackMantissa .binary64 x.toBits.toBitVec = 0#52
    · rw [if_pos isZero] at eq
      cases eq
    · rw [if_neg isZero] at eq
      cases eq
  · have notTop : (@unpackExponent .binary64 x.toBits.toBitVec).toNat ≠ 2047 := fun top =>
      allOnes (BitVec.eq_of_toNat_eq top)
    rw [if_neg allOnes] at eq
    by_cases isBottom : @unpackExponent .binary64 x.toBits.toBitVec = 0#11
    · rw [if_pos isBottom] at eq
      by_cases isZero : @unpackMantissa .binary64 x.toBits.toBitVec = 0#52
      · rw [dif_pos isZero] at eq
        cases eq
      · rw [dif_neg isZero] at eq
        cases eq
        rw [isBottom]
        exact ⟨by omega, by decide, by decide, .inr (by decide)⟩
    · have notBottom : (@unpackExponent .binary64 x.toBits.toBitVec).toNat ≠ 0 := fun bottom =>
        isBottom (BitVec.eq_of_toNat_eq bottom)
      rw [if_neg isBottom] at eq
      cases eq
      have implicitBit : 4503599627370496 ≤ (1#1 ++ @unpackMantissa .binary64 x.toBits.toBitVec).toNat := by
        rw [BitVec.toNat_append]
        exact Nat.left_le_or
      exact ⟨BitVec.isLt _, by omega, by omega, .inl (by omega)⟩

open Float.Model Float.Model.UnpackedFloat in
theorem unpack_finite_bounds {x : Float.Model} {s : Sign} {m : Nat} {e : Int} {pos : 0 < m}
    (eq : x.unpack = .finite s m e pos) : m < mantissaLimit ∧ -1074 ≤ e ∧ e ≤ 971 :=
  have ⟨short, low, high, _⟩ := unpack_finite_shape eq
  ⟨short, low, high⟩

/-- Whether a mantissa and an exponent are within the format. -/
def Fits (m : Nat) (e : Int) : Prop := 0 < m ∧ m < mantissaLimit ∧ -1074 ≤ e ∧ e ≤ 971

theorem magnitudeRank_pos {m : Nat} {e : Int} (h : Fits m e) : 0 < magnitudeRank m e := by
  obtain ⟨_, _, _, _⟩ := h
  simp only [magnitudeRank]; omega

theorem magnitudeRank_lt {m : Nat} {e : Int} (h : Fits m e) : magnitudeRank m e < infiniteRank := by
  obtain ⟨_, small, _, _⟩ := h
  simp only [magnitudeRank, minExponent, infiniteRank, mantissaLimit] at small ⊢; omega

theorem compare_magnitudeRank {m n : Nat} {d e : Int} (hm : Fits m d) (hn : Fits n e) :
    compare (magnitudeRank m d) (magnitudeRank n e) = (compare d e).then (compare m n) := by
  obtain ⟨_, small, _, _⟩ := hm
  obtain ⟨_, small', _, _⟩ := hn
  unfold mantissaLimit at small small'
  have lower : (d + 1074).toNat = d + 1074 := Int.toNat_of_nonneg (by omega)
  have upper : (e + 1074).toNat = e + 1074 := Int.toNat_of_nonneg (by omega)
  rcases Int.lt_trichotomy d e with less | same | greater
  · rw [Int.compare_eq_lt.mpr less]
    refine Nat.compare_eq_lt.mpr ?_
    simp only [magnitudeRank, minExponent, mantissaLimit]; omega
  · subst same
    simp [magnitudeRank, Nat.compare_eq_ite_lt]
  · rw [Int.compare_eq_gt.mpr greater]
    refine Nat.compare_eq_gt.mpr ?_
    simp only [magnitudeRank, minExponent, mantissaLimit]; omega

theorem compare_natCast (m n : Nat) : compare (m : Int) (n : Int) = compare m n := by
  rcases Nat.lt_trichotomy m n with less | same | greater
  · rw [Nat.compare_eq_lt.mpr less, Int.compare_eq_lt.mpr (by omega)]
  · subst same
    simp
  · rw [Nat.compare_eq_gt.mpr greater, Int.compare_eq_gt.mpr (by omega)]

theorem compare_neg_natCast (m n : Nat) : compare (-(m : Int)) (-(n : Int)) = (compare m n).swap := by
  rcases Nat.lt_trichotomy m n with less | same | greater
  · rw [Nat.compare_eq_lt.mpr less, Int.compare_eq_gt.mpr (by omega)]; rfl
  · subst same
    simp
  · rw [Nat.compare_eq_gt.mpr greater, Int.compare_eq_lt.mpr (by omega)]; rfl

open Float.Model Float.Model.UnpackedFloat in
/-- Doubles that compare have ranks that compare alike. -/
theorem compare_rank {x y : Float} {o : Ordering} (h : x.toModel.compare y.toModel = some o) :
    compare (rank x) (rank y) = o := by
  have fits {z : Float} {s m e pos} (eq : z.toModel.unpack = .finite s m e pos) : Fits m e :=
    ⟨pos, unpack_finite_bounds eq⟩
  replace h : x.toModel.unpack.compare y.toModel.unpack = some o := h
  unfold rank
  cases hx : x.toModel.unpack with
  | notANumber => rw [hx] at h; cases h
  | infinity s =>
    cases hy : y.toModel.unpack with
    | notANumber => rw [hx, hy] at h; cases s <;> cases h
    | infinity t => rw [hx, hy] at h; cases s <;> cases t <;> cases h <;> rfl
    | zero t => rw [hx, hy] at h; cases s <;> cases h <;> rfl
    | finite t n e pos =>
      have below := magnitudeRank_lt (fits hy)
      rw [hx, hy] at h
      cases s <;> cases t <;> cases h <;>
        simp only [Int.compare_eq_lt, Int.compare_eq_gt] <;> omega
  | zero s =>
    cases hy : y.toModel.unpack with
    | notANumber => rw [hx, hy] at h; cases h
    | infinity t => rw [hx, hy] at h; cases t <;> cases h <;> rfl
    | zero t => rw [hx, hy] at h; cases h; rfl
    | finite t n e pos =>
      have above := magnitudeRank_pos (fits hy)
      rw [hx, hy] at h
      cases t <;> cases h <;> simp only [Int.compare_eq_lt, Int.compare_eq_gt] <;> omega
  | finite s m d pos =>
    have above := magnitudeRank_pos (fits hx)
    have below := magnitudeRank_lt (fits hx)
    cases hy : y.toModel.unpack with
    | notANumber => rw [hx, hy] at h; cases s <;> cases h
    | infinity t =>
      rw [hx, hy] at h
      cases s <;> cases t <;> cases h <;>
        simp only [Int.compare_eq_lt, Int.compare_eq_gt] <;> omega
    | zero t =>
      rw [hx, hy] at h
      cases s <;> cases h <;> simp only [Int.compare_eq_lt, Int.compare_eq_gt] <;> omega
    | finite t n e pos' =>
      have above' := magnitudeRank_pos (fits hy)
      have magnitudes := compare_magnitudeRank (fits hx) (fits hy)
      rw [hx, hy] at h
      cases s with
      | negative =>
        cases t with
        | negative => cases h; simp only [compare_neg_natCast, magnitudes]
        | positive => cases h; simp only [Int.compare_eq_lt]; omega
      | positive =>
        cases t with
        | negative => cases h; simp only [Int.compare_eq_gt]; omega
        | positive => cases h; simp only [compare_natCast, magnitudes]

theorem rank_lt_rank {x y : Float} (h : x < y) : rank x < rank y := by
  have less : x.toModel.lt y.toModel = true := of_decide_eq_true h
  exact Int.compare_eq_lt.mp (compare_rank (eq_of_beq less))

theorem rank_le_rank {x y : Float} (h : x ≤ y) : rank x ≤ rank y := by
  have atMost : (x.toModel.compare y.toModel).any (·.isLE) = true := of_decide_eq_true h
  cases compared : x.toModel.compare y.toModel with
  | none => rw [compared] at atMost; cases atMost
  | some o =>
    rw [compared] at atMost
    have ranks := compare_rank compared
    cases o with
    | lt => exact Int.le_of_lt (Int.compare_eq_lt.mp ranks)
    | eq => exact Int.le_of_eq (Int.compare_eq_eq.mp ranks)
    | gt => cases atMost

theorem rank_bounds (x : Float) : -(infiniteRank : Int) ≤ rank x ∧ rank x ≤ infiniteRank := by
  unfold rank
  cases unpacked : x.toModel.unpack with
  | notANumber | zero =>
    dsimp only
    omega
  | infinity sign => cases sign <;> dsimp only <;> omega
  | finite sign m e pos =>
    have below := magnitudeRank_lt (show Fits m e from ⟨pos, unpack_finite_bounds unpacked⟩)
    cases sign <;> dsimp only <;> omega

end GraphCalc.Double
