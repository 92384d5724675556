import GraphCalc.Proofs.DecimalReading
import GraphCalc.Proofs.Negation

/-!
# Numerals

A literal that is no negative number is written as a decimal that rounds to it, or as `inf` or `nan`. As no decimal
rounds to two doubles, the text determines the literal up to the sign of zero: `eq_of_numeral_eq`. The text of a
negative literal is a minus sign before the text of its magnitude: `numeral_of_neg`.
-/

namespace GraphCalc.Double

open Float.Model Float.Model.UnpackedFloat

variable {x y : Float} {m k : Nat} {e : Int} {sign : Sign} {d : Decimal}

/-- A double without the sign of a zero, one for all that is not a number. -/
def aligned (x : Float) : Float := if x.isNaN then Float.nan else if x == 0 then 0 else x

/-- A double that is written without a minus sign, whose text determines it. -/
structure Unsigned (x : Float) : Prop where
  notNegative : ¬x < 0
  aligned : aligned x = x

theorem parts_of_unpacked (canonical : Canonical m e) (shape : x.toModel.unpack = unpacked sign m e) :
    parts x = .finite (isNegative sign) m e := by
  unfold parts
  rw [shape]
  by_cases zero : m = 0
  · subst zero
    rw [canonical.exponent_of_zero]
    rfl
  · rw [unpacked_of_ne_zero zero]

theorem magnitude_of_whole (whole : wholeMagnitude? m e = some k) : (k : Rat) = magnitude m e := by
  unfold wholeMagnitude? at whole
  by_cases above : 0 ≤ e
  · rw [if_pos above] at whole
    cases whole
    obtain ⟨n, rfl⟩ := Int.eq_ofNat_of_zero_le above
    rw [magnitude, Int.toNat_natCast, zpow_natCast, Nat.shiftLeft_eq]
    push_cast
    rfl
  · rw [if_neg above] at whole
    obtain ⟨n, rfl⟩ : ∃ n : Nat, e = -n := ⟨(-e).toNat, by omega⟩
    rw [neg_neg, Int.toNat_natCast, Nat.one_shiftLeft] at whole
    dsimp only at whole
    by_cases divides : m % 2 ^ n = 0
    · rw [if_pos divides] at whole
      cases whole
      rw [magnitude, zpow_neg, zpow_natCast, Nat.cast_div (Nat.dvd_of_mod_eq_zero divides) (by positivity)]
      push_cast
      rw [div_eq_mul_inv]
    · rw [if_neg divides] at whole
      cases whole

theorem value_exactDecimal (m : Nat) (e : Int) : (exactDecimal m e).value = magnitude m e := by
  unfold exactDecimal
  by_cases above : 0 ≤ e
  · obtain ⟨n, rfl⟩ := Int.eq_ofNat_of_zero_le above
    rw [if_pos above, Decimal.value, magnitude, Int.toNat_natCast, zpow_natCast, Nat.shiftLeft_eq]
    push_cast
    ring
  · obtain ⟨n, rfl⟩ : ∃ n : Nat, e = -n := ⟨(-e).toNat, by omega⟩
    have ten : (10 : Rat) ^ n = 5 ^ n * 2 ^ n := by rw [← mul_pow]; norm_num
    rw [if_neg above, Decimal.value, magnitude, neg_neg, Int.toNat_natCast, zpow_neg, zpow_neg, zpow_natCast,
      zpow_natCast, ten, Nat.pow_eq]
    push_cast
    field_simp

theorem contains_of_nearestOnGrid {r : Rat} {interval : Interval} {grid : Int}
    (found : nearestOnGrid? r interval grid = some d) : interval.contains d.value = true := by
  unfold nearestOnGrid? at found
  dsimp only at found
  split at found
  · cases found
  · cases found
    assumption
  · cases found
    assumption
  · cases found
    split <;> assumption

/-- The shortest decimal of a double rounds to it. -/
theorem roundsTo_shortest (m : Nat) (e : Int) : RoundsTo (shortest m e).value m e := by
  unfold shortest
  dsimp only
  cases search : (List.range 17).findSome? fun (finer : Nat) =>
      nearestOnGrid? (magnitude m e) (roundingInterval m e) (leadingExponent (magnitude m e) - finer) with
  | none =>
    rw [Option.getD_none, value_exactDecimal]
    exact roundsTo_magnitude m e
  | some d =>
    obtain ⟨_, _, found⟩ := List.exists_of_findSome?_eq_some search
    exact contains_of_nearestOnGrid found

theorem coefficient_shortest_pos (positive : 0 < m) (e : Int) : 0 < (shortest m e).coefficient := by
  have above : 0 < (shortest m e).value := (roundsTo_shortest m e).pos positive
  by_contra none
  rw [Decimal.value, Nat.eq_zero_of_not_pos none] at above
  simp at above

/-- The text of a magnitude is one of a decimal that rounds to it. -/
theorem magnitudeText_reads_back (positive : 0 < m) (e : Int) :
    IsNumeral (magnitudeText m e).toList ∧ RoundsTo (readDecimal (magnitudeText m e).toList) m e := by
  obtain ⟨numeral, read⟩ := text_reads_back (coefficient_shortest_pos positive e) layout
  rw [magnitudeText, if_neg positive.ne', read]
  exact ⟨numeral, roundsTo_shortest m e⟩

theorem toString_natCast (k : Nat) : (toString (k : Int)).toList = Nat.toDigits 10 k := by
  rw [Int.toString_eq_repr]
  exact Nat.toList_repr

theorem whole_reads_back (k : Nat) :
    IsNumeral (toString (k : Int)).toList ∧ readDecimal (toString (k : Int)).toList = k := by
  have mantissa := mantissa_whole (digits_toDigits k) Nat.toDigits_ne_nil
  rw [toString_natCast, mantissa.readDecimal_eq, readDigits_toDigits]
  exact ⟨mantissa.numeral, rfl⟩

theorem text_of_unpacked (canonical : Canonical m e) (shape : x.toModel.unpack = unpacked sign m e) :
    text x = Double.sign (isNegative sign) ++ magnitudeText m e := by
  unfold text
  rw [parts_of_unpacked canonical shape]

/-- The whole number that a magnitude is, if it is one of moderate size. -/
def moderate? (m : Nat) (e : Int) : Option Nat := (wholeMagnitude? m e).filter (· < wholeLimit)

theorem moderate_zero (e : Int) : moderate? 0 e = some 0 := by
  have whole : wholeMagnitude? 0 e = some 0 := by
    unfold wholeMagnitude?
    simp
  rw [moderate?, whole]
  rfl

theorem magnitude_of_moderate (moderate : moderate? m e = some k) : (k : Rat) = magnitude m e :=
  magnitude_of_whole (Option.filter_eq_some_iff.mp moderate).1

/-- The text of a finite double depends on its sign, and on whether it is a whole number of moderate size. -/
theorem numeral_of_unpacked (canonical : Canonical m e) (shape : x.toModel.unpack = unpacked sign m e) :
    numeral x = match moderate? m e with
      | some k => toString (if isNegative sign then -(k : Int) else k)
      | none => text x := by
  unfold numeral toInt? moderate?
  rw [parts_of_unpacked canonical shape]
  dsimp only
  cases wholeMagnitude? m e with
  | none => rfl
  | some k =>
    have size : (if isNegative sign then -(k : Int) else k).natAbs = k := by split <;> omega
    show (if (if isNegative sign then -(k : Int) else k).natAbs < wholeLimit then
      toString (if isNegative sign then -(k : Int) else k) else text x) = _
    rw [size]
    by_cases small : k < wholeLimit
    · simp [Option.filter, small]
    · simp [Option.filter, small]

/-- The text of an unsigned finite double is a decimal that rounds to it. -/
theorem numeral_reads_back (canonical : Canonical m e) (shape : x.toModel.unpack = unpacked .positive m e) :
    IsNumeral (numeral x).toList ∧ RoundsTo (readDecimal (numeral x).toList) m e := by
  rw [numeral_of_unpacked canonical shape]
  cases moderate : moderate? m e with
  | some k =>
    obtain ⟨numeral, read⟩ := whole_reads_back k
    show IsNumeral (toString (k : Int)).toList ∧ RoundsTo (readDecimal (toString (k : Int)).toList) m e
    rw [read, magnitude_of_moderate moderate]
    exact ⟨numeral, roundsTo_magnitude m e⟩
  | none =>
    have positive : 0 < m := by
      refine Nat.pos_of_ne_zero ?_
      rintro rfl
      rw [moderate_zero] at moderate
      cases moderate
    have same : text x = magnitudeText m e := (text_of_unpacked canonical shape).trans String.empty_append
    show IsNumeral (text x).toList ∧ RoundsTo (readDecimal (text x).toList) m e
    exact same ▸ magnitudeText_reads_back positive e

/-- A double is not a number, or a zero, or has a sign. -/
theorem nan_or_zero_or_signed (x : Float) :
    x = Float.nan ∨ (∃ sign, x.toModel.unpack = .zero sign) ∨ x < 0 ∨ 0 < x := by
  rw [lt_zero_iff_rank, zero_lt_iff_rank, IsNumber, rank]
  cases shape : x.toModel.unpack with
  | notANumber => exact .inl (eq_of_unpack_eq shape)
  | zero sign => exact .inr (.inl ⟨sign, rfl⟩)
  | infinity sign =>
    cases sign with
    | negative => exact .inr (.inr (.inl ⟨by simp, by decide⟩))
    | positive => exact .inr (.inr (.inr ⟨by simp, by decide⟩))
  | finite sign m e positive =>
    obtain ⟨below, least, inside, full⟩ := unpack_finite_shape shape
    have above := magnitudeRank_pos ⟨positive, below, least, inside⟩
    cases sign with
    | negative => exact .inr (.inr (.inl ⟨by simp, by dsimp only; omega⟩))
    | positive => exact .inr (.inr (.inr ⟨by simp, by dsimp only; omega⟩))

theorem isNumber_iff_ne_nan : IsNumber x ↔ x ≠ Float.nan := by
  have none : Float.nan.toModel.unpack = .notANumber := rfl
  refine not_congr ⟨fun shape => eq_of_unpack_eq (shape.trans none.symm), ?_⟩
  rintro rfl
  exact none

theorem aligned_of_zero (shape : x.toModel.unpack = .zero sign) : aligned x = 0 := by
  have number : IsNumber x := by simp [IsNumber, shape]
  have zero : (x == 0) = true := by
    refine beq_iff_rank_eq.mpr ⟨number, isNumber_zero, ?_⟩
    rw [rank, shape]
    rfl
  simp [aligned, isNumber_iff_ne_nan.mp number, zero]

theorem aligned_of_rank_ne_zero (number : IsNumber x) (nonzero : rank x ≠ 0) : aligned x = x := by
  have other : (x == 0) = false := by
    rw [← Bool.not_eq_true]
    exact fun same => nonzero (beq_iff_rank_eq.mp same).2.2
  simp [aligned, isNumber_iff_ne_nan.mp number, other]

theorem aligned_of_pos (positive : 0 < x) : aligned x = x :=
  have ⟨number, above⟩ := zero_lt_iff_rank.mp positive
  aligned_of_rank_ne_zero number above.ne'

theorem aligned_of_neg (negative : x < 0) : aligned x = x :=
  have ⟨number, below⟩ := lt_zero_iff_rank.mp negative
  aligned_of_rank_ne_zero number below.ne

theorem unsigned_of_pos (positive : 0 < x) : Unsigned x := by
  refine ⟨fun negative => ?_, aligned_of_pos positive⟩
  have above := (zero_lt_iff_rank.mp positive).2
  have below := (lt_zero_iff_rank.mp negative).2
  omega

/-- An unsigned double is not a number, or infinite, or finite. -/
theorem Unsigned.cases (unsigned : Unsigned x) :
    x = Float.nan ∨ IsTop x ∨ ∃ m e, Canonical m e ∧ x.toModel.unpack = unpacked .positive m e := by
  rcases nan_or_zero_or_signed x with none | ⟨sign, shape⟩ | negative | positive
  · exact .inl none
  · refine .inr (.inr ⟨0, minExponent, .zero, ?_⟩)
    rw [← unsigned.aligned, aligned_of_zero shape]
    rfl
  · exact absurd negative unsigned.notNegative
  · rcases pos_cases positive with ⟨finite, above⟩ | top
    · obtain ⟨m, e, _, canonical, shape⟩ := unpacked_of_pos finite above
      exact .inr (.inr ⟨m, e, canonical, shape⟩)
    · exact .inr (.inl top)

theorem numeral_nan : numeral Float.nan = "nan" := rfl

theorem numeral_of_isTop (top : IsTop x) : numeral x = "inf" := by
  have infinite : parts x = .infinite false := by
    unfold parts
    rw [top]
    rfl
  rw [numeral, toInt?, infinite]
  rw [text, infinite]
  rfl

/-- The text of an unsigned double. -/
theorem Unsigned.numeral_cases (unsigned : Unsigned x) :
    numeral x = "nan" ∨ numeral x = "inf" ∨ IsNumeral (numeral x).toList := by
  rcases unsigned.cases with rfl | top | ⟨m, e, canonical, shape⟩
  · exact .inl numeral_nan
  · exact .inr (.inl (numeral_of_isTop top))
  · exact .inr (.inr (numeral_reads_back canonical shape).1)

theorem not_isNumeral_nan : ¬IsNumeral "nan".toList := by
  rintro ⟨⟨_, _, same, first⟩, _⟩
  cases same
  cases first

theorem not_isNumeral_inf : ¬IsNumeral "inf".toList := by
  rintro ⟨⟨_, _, same, first⟩, _⟩
  cases same
  cases first

theorem Unsigned.eq_nan (unsigned : Unsigned x) (text : numeral x = "nan") : x = Float.nan := by
  rcases unsigned.cases with none | top | ⟨m, e, canonical, shape⟩
  · exact none
  · rw [numeral_of_isTop top] at text
    exact absurd text (by decide)
  · exact absurd (text ▸ (numeral_reads_back canonical shape).1) not_isNumeral_nan

theorem Unsigned.isTop (unsigned : Unsigned x) (text : numeral x = "inf") : IsTop x := by
  rcases unsigned.cases with rfl | top | ⟨m, e, canonical, shape⟩
  · rw [numeral_nan] at text
    exact absurd text (by decide)
  · exact top
  · exact absurd (text ▸ (numeral_reads_back canonical shape).1) not_isNumeral_inf

/-- Different unsigned doubles have different texts. -/
theorem eq_of_numeral_eq (hx : Unsigned x) (hy : Unsigned y) (same : numeral x = numeral y) : x = y := by
  rcases hx.cases with rfl | top | ⟨m, e, cm, shapeX⟩
  · exact (hy.eq_nan (same.symm.trans numeral_nan)).symm
  · exact eq_of_unpack_eq (top.trans (hy.isTop (same.symm.trans (numeral_of_isTop top))).symm)
  · rcases hy.cases with rfl | top | ⟨n, d, cn, shapeY⟩
    · exact hx.eq_nan (same.trans numeral_nan)
    · exact eq_of_unpack_eq ((hx.isTop (same.trans (numeral_of_isTop top))).trans top.symm)
    · -- one decimal rounds to both
      have rx := (numeral_reads_back cm shapeX).2
      have ry := (numeral_reads_back cn shapeY).2
      rw [same] at rx
      have le := magnitudeRank_le_of_mem cm rx cn ry (le_refl _)
      have ge := magnitudeRank_le_of_mem cn ry cm rx (le_refl _)
      obtain ⟨rfl, rfl⟩ := eq_of_magnitudeRank_eq cm cn (Nat.le_antisymm le ge)
      exact eq_of_unpack_eq (shapeX.trans shapeY.symm)

theorem toString_neg (positive : 0 < k) : toString (-(k : Int)) = "-" ++ toString (k : Int) := by
  obtain ⟨n, rfl⟩ := Nat.exists_eq_add_one.mpr positive
  rfl

/-- The text of a negative literal is a minus sign before the text of its magnitude. -/
theorem numeral_of_neg (negative : x < 0) : numeral x = "-" ++ numeral (-x) := by
  rcases pos_cases (neg_pos.mpr negative) with ⟨finite, above⟩ | top
  · obtain ⟨m, e, positive, canonical, flipped⟩ := unpacked_of_pos finite above
    have shape : x.toModel.unpack = unpacked .negative m e := by
      rw [← Double.neg_neg x, unpack_neg, flipped, unpacked_of_ne_zero positive.ne',
        unpacked_of_ne_zero positive.ne']
      rfl
    have texts : text x = "-" ++ text (-x) := by
      rw [text_of_unpacked canonical shape, text_of_unpacked canonical flipped]
      exact congrArg ("-" ++ ·) String.empty_append.symm
    rw [numeral_of_unpacked canonical shape, numeral_of_unpacked canonical flipped]
    cases moderate : moderate? m e with
    | none => exact texts
    | some k =>
      have some : 0 < k := by
        have above : 0 < magnitude m e := (roundsTo_magnitude m e).pos positive
        rw [← magnitude_of_moderate moderate] at above
        exact_mod_cast above
      exact toString_neg some
  · have shape : x.toModel.unpack = .infinity .negative := by
      rw [← Double.neg_neg x, unpack_neg, top]
      rfl
    have same : x = .ofModel (.pack (.infinity .negative)) := eq_of_unpack_eq shape
    subst same
    rfl

theorem numeral_of_zero (shape : x.toModel.unpack = .zero sign) : numeral x = "0" := by
  have same : x.toModel.unpack = unpacked sign 0 minExponent := shape
  rw [numeral_of_unpacked .zero same, moderate_zero]
  cases sign <;> rfl

@[simp] theorem numeral_aligned (x : Float) : numeral (aligned x) = numeral x := by
  rcases nan_or_zero_or_signed x with rfl | ⟨sign, shape⟩ | negative | positive
  · rfl
  · rw [aligned_of_zero shape, numeral_of_zero shape]
    rfl
  · rw [aligned_of_neg negative]
  · rw [aligned_of_pos positive]

@[simp] theorem aligned_aligned (x : Float) : aligned (aligned x) = aligned x := by
  rcases nan_or_zero_or_signed x with rfl | ⟨sign, shape⟩ | negative | positive
  · rfl
  · rw [aligned_of_zero shape]
    rfl
  · rw [aligned_of_neg negative, aligned_of_neg negative]
  · rw [aligned_of_pos positive, aligned_of_pos positive]

/-- A double that is no negative number is unsigned once it is aligned. -/
theorem unsigned_aligned (notNegative : ¬x < 0) : Unsigned (aligned x) := by
  refine ⟨?_, aligned_aligned x⟩
  rcases nan_or_zero_or_signed x with rfl | ⟨sign, shape⟩ | negative | positive
  · exact notNegative
  · rw [aligned_of_zero shape]
    decide
  · exact absurd negative notNegative
  · rwa [aligned_of_pos positive]

end GraphCalc.Double
