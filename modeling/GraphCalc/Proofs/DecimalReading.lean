import GraphCalc.Double.Text
import Mathlib.Algebra.Order.Field.Power
import Mathlib.Algebra.Order.Field.Rat
import Mathlib.Data.List.TakeWhile
import Mathlib.Tactic.FieldSimp
import Mathlib.Tactic.Ring

/-!
# Reading decimals

What a decimal text means: the digits before an exponent, divided by ten for each digit behind the point, times a
power of ten. The text of a decimal means the decimal, however its digits are set: `text_reads_back`. It starts
with a digit and holds nothing but digits, a point and a signed exponent.
-/

namespace GraphCalc.Double

variable {cs ds whole fraction : List Char} {d : Decimal} {layout : Layout} {leading : Int} {n : Nat}

/-- Every character is a decimal digit. -/
def Digits (cs : List Char) : Prop := ∀ c ∈ cs, c.isDigit = true

/-- The number that decimal digits write. -/
def readDigits (cs : List Char) : Nat := Nat.ofDigitChars 10 cs 0

/-- The number that digits write with a point among them, or without one. -/
def readPositional (cs : List Char) : Rat :=
  let whole := cs.takeWhile (· ≠ '.')
  let fraction := (cs.dropWhile (· ≠ '.')).drop 1
  readDigits (whole ++ fraction) / 10 ^ fraction.length

/-- The exponent that a text ends with; none is zero. -/
def readExponent : List Char → Int
  | 'e' :: '-' :: cs => -(readDigits cs : Int)
  | 'e' :: _ :: cs => readDigits cs
  | _ => 0

/-- The number that a decimal text writes. -/
def readDecimal (cs : List Char) : Rat :=
  readPositional (cs.takeWhile (· ≠ 'e')) * 10 ^ readExponent (cs.dropWhile (· ≠ 'e'))

theorem Digits.append (first : Digits cs) (second : Digits ds) : Digits (cs ++ ds) := by
  intro c member
  rcases List.mem_append.mp member with member | member
  · exact first c member
  · exact second c member

theorem Digits.of_subset (digits : Digits cs) (subset : ds ⊆ cs) : Digits ds :=
  fun c member => digits c (subset member)

theorem digits_zeros (n : Nat) : Digits (zeros n) := by
  intro c member
  rw [List.eq_of_mem_replicate member]
  rfl

theorem digits_toDigits (n : Nat) : Digits (Nat.toDigits 10 n) :=
  fun _ member => Nat.isDigit_of_mem_toDigits (by decide) (by decide) member

/-- A mark is not among digits. -/
theorem Digits.ne {mark : Char} (digits : Digits cs) (other : mark.isDigit = false) :
    ∀ c ∈ cs, decide (c ≠ mark) = true := by
  intro c member
  refine decide_eq_true ?_
  rintro rfl
  exact absurd (digits c member) (by simp [other])

@[simp] theorem readDigits_toDigits (n : Nat) : readDigits (Nat.toDigits 10 n) = n :=
  Nat.ofDigitChars_toDigits (by decide) (by decide)

theorem readDigits_append_zeros (cs : List Char) (n : Nat) :
    readDigits (cs ++ zeros n) = 10 ^ n * readDigits cs := by
  rw [readDigits, Nat.ofDigitChars_append]
  exact Nat.ofDigitChars_replicate_zero

theorem readDigits_zeros_append (n : Nat) (cs : List Char) :
    readDigits (zeros n ++ cs) = readDigits cs := by
  rw [readDigits, Nat.ofDigitChars_append, zeros, Nat.ofDigitChars_replicate_zero]
  rfl

theorem readPositional_whole (digits : Digits cs) : readPositional cs = readDigits cs := by
  have free := digits.ne (show '.'.isDigit = false from rfl)
  rw [readPositional, List.takeWhile_eq_self_iff.mpr free, List.dropWhile_eq_nil_iff.mpr free]
  simp

theorem readPositional_point (digits : Digits whole) (fraction : List Char) :
    readPositional (whole ++ '.' :: fraction) = readDigits (whole ++ fraction) / 10 ^ fraction.length := by
  have free := digits.ne (show '.'.isDigit = false from rfl)
  rw [readPositional, List.takeWhile_append_of_pos free, List.dropWhile_append_of_pos free]
  simp

/-- Only zeros are dropped. -/
theorem exists_dropped_zeros (cs : List Char) : ∃ n, cs = dropTrailingZeros cs ++ zeros n := by
  let dropped := cs.reverse.takeWhile (· == '0')
  have onlyZeros : ∀ c ∈ dropped, c = '0' := fun c member => by
    simpa using List.mem_takeWhile_imp member
  refine ⟨dropped.length, ?_⟩
  have split : dropped ++ cs.reverse.dropWhile (· == '0') = cs.reverse := List.takeWhile_append_dropWhile
  calc
    cs = (dropped ++ cs.reverse.dropWhile (· == '0')).reverse := by rw [split, List.reverse_reverse]
    _ = dropTrailingZeros cs ++ dropped.reverse := by rw [List.reverse_append]; rfl
    _ = dropTrailingZeros cs ++ zeros dropped.length := by
      rw [List.eq_replicate_of_mem onlyZeros, List.reverse_replicate, List.length_replicate]
      rfl

/-- What may stand in the text of a number. -/
def isNumeralChar (c : Char) : Bool := c.isDigit || ['.', 'e', '+', '-'].contains c

/-- A text that starts with a digit and holds nothing but what may stand in a number. -/
structure IsNumeral (cs : List Char) : Prop where
  first : ∃ c rest, cs = c :: rest ∧ c.isDigit = true
  chars : ∀ c ∈ cs, isNumeralChar c = true

theorem Digits.isNumeral (digits : Digits cs) (some : cs ≠ []) : IsNumeral cs := by
  obtain ⟨c, rest, rfl⟩ := List.exists_cons_of_ne_nil some
  refine ⟨⟨c, rest, rfl, digits c List.mem_cons_self⟩, fun d member => ?_⟩
  simp [isNumeralChar, digits d member]

theorem IsNumeral.mark {mark : Char} (numeral : IsNumeral cs) (special : mark ∈ ['.', 'e', '+', '-'])
    (digits : Digits ds) : IsNumeral (cs ++ mark :: ds) := by
  obtain ⟨⟨c, rest, rfl, first⟩, chars⟩ := numeral
  refine ⟨⟨c, rest ++ mark :: ds, rfl, first⟩, fun d member => ?_⟩
  rcases List.mem_append.mp member with member | member
  · exact chars d member
  · rcases List.mem_cons.mp member with rfl | member
    · simp [isNumeralChar, special]
    · simp [isNumeralChar, digits d member]

/-- A text of digits, with a point or without one, and the number that it writes. -/
structure Mantissa (cs : List Char) (r : Rat) : Prop where
  numeral : IsNumeral cs
  plain : ∀ c ∈ cs, decide (c ≠ 'e') = true
  number : readPositional cs = r

theorem mantissa_whole (digits : Digits cs) (some : cs ≠ []) : Mantissa cs (readDigits cs) :=
  ⟨digits.isNumeral some, digits.ne rfl, readPositional_whole digits⟩

theorem mantissa_point (before : Digits whole) (some : whole ≠ []) (after : Digits fraction) :
    Mantissa (whole ++ '.' :: fraction) (readDigits (whole ++ fraction) / 10 ^ fraction.length) := by
  refine ⟨(before.isNumeral some).mark (by simp) after, ?_, readPositional_point before fraction⟩
  intro c member
  rcases List.mem_append.mp member with member | member
  · exact before.ne rfl c member
  · rcases List.mem_cons.mp member with rfl | member
    · rfl
    · exact after.ne rfl c member

theorem Mantissa.readDecimal_eq {r : Rat} (mantissa : Mantissa cs r) : readDecimal cs = r := by
  rw [readDecimal, List.takeWhile_eq_self_iff.mpr mantissa.plain, List.dropWhile_eq_nil_iff.mpr mantissa.plain,
    mantissa.number]
  simp [readExponent]

/-- A mantissa and its exponent. -/
theorem Mantissa.exponent {r : Rat} (mantissa : Mantissa cs r) (n : Nat) (e : Int) :
    IsNumeral (cs ++ 'e' :: (if e < 0 then '-' else '+') :: (zeros n ++ Nat.toDigits 10 e.natAbs)) ∧
      readDecimal (cs ++ 'e' :: (if e < 0 then '-' else '+') :: (zeros n ++ Nat.toDigits 10 e.natAbs)) =
        r * 10 ^ e := by
  constructor
  · have marked : IsNumeral (cs ++ ['e']) := mantissa.numeral.mark (by simp) nofun
    rw [List.append_cons]
    exact marked.mark (by split <;> simp) ((digits_zeros n).append (digits_toDigits e.natAbs))
  · rw [readDecimal, List.takeWhile_append_of_pos mantissa.plain, List.dropWhile_append_of_pos mantissa.plain]
    have power : readExponent ('e' :: (if e < 0 then '-' else '+') :: (zeros n ++ Nat.toDigits 10 e.natAbs)) =
        e := by
      by_cases below : e < 0
      · rw [if_pos below, readExponent, readDigits_zeros_append, readDigits_toDigits]
        omega
      · rw [if_neg below, readExponent, readDigits_zeros_append, readDigits_toDigits]
        · omega
        · simp
    simp [power, mantissa.number]

/-- A number below one: the digits stand behind zeros. -/
theorem mantissa_positional_of_neg (digits : Digits ds) (below : leading < 0) :
    Mantissa (positional ds leading) (readDigits ds * 10 ^ (leading + 1 - ds.length)) := by
  have text : positional ds leading = ['0'] ++ '.' :: (zeros (-leading - 1).toNat ++ ds) := by
    simp [positional, below]
  have number : readDigits (['0'] ++ (zeros (-leading - 1).toNat ++ ds)) = readDigits ds := by
    rw [show ['0'] = zeros 1 from rfl, readDigits_zeros_append, readDigits_zeros_append]
  have exponent : leading + 1 - ds.length = -((-leading - 1).toNat + ds.length : Nat) := by omega
  have mantissa := mantissa_point (digits_zeros 1) (by simp [zeros])
    ((digits_zeros (-leading - 1).toNat).append digits)
  rw [show zeros 1 = ['0'] from rfl, number, List.length_append, zeros, List.length_replicate] at mantissa
  rwa [text, exponent, zpow_neg, zpow_natCast, ← div_eq_mul_inv]

/-- A whole number: the digits and zeros behind them stand before the point. -/
theorem mantissa_positional_of_short (digits : Digits ds) (above : 0 ≤ leading)
    (short : ds.length ≤ leading.toNat + 1) :
    Mantissa (positional ds leading) (readDigits ds * 10 ^ (leading + 1 - ds.length)) := by
  have text : positional ds leading = (ds ++ zeros (leading.toNat + 1 - ds.length)) ++ '.' :: ['0'] := by
    rw [positional, if_neg (Int.not_lt.mpr above)]
    dsimp only
    rw [List.take_of_length_le short, List.drop_eq_nil_of_le short]
    simp
  have some : ds ++ zeros (leading.toNat + 1 - ds.length) ≠ [] := by
    intro none
    have none := congrArg List.length none
    simp only [zeros, List.length_append, List.length_replicate, List.length_nil] at none
    omega
  have number : readDigits (ds ++ zeros (leading.toNat + 1 - ds.length) ++ ['0']) =
      10 ^ 1 * (10 ^ (leading.toNat + 1 - ds.length) * readDigits ds) := by
    rw [show ['0'] = zeros 1 from rfl, readDigits_append_zeros, readDigits_append_zeros]
  have exponent : leading + 1 - ds.length = (leading.toNat + 1 - ds.length : Nat) := by omega
  have mantissa := mantissa_point (digits.append (digits_zeros _)) some (digits_zeros 1)
  rw [show zeros 1 = ['0'] from rfl, number] at mantissa
  convert mantissa using 1
  rw [exponent, zpow_natCast]
  push_cast
  rw [List.length_singleton]
  field_simp

/-- A number with a fraction: the point stands among the digits. -/
theorem mantissa_positional_of_long (digits : Digits ds) (above : 0 ≤ leading)
    (long : leading.toNat + 1 < ds.length) :
    Mantissa (positional ds leading) (readDigits ds * 10 ^ (leading + 1 - ds.length)) := by
  have none : leading.toNat + 1 - ds.length = 0 := by omega
  have some : ds.drop (leading.toNat + 1) ≠ [] := by
    rw [Ne, List.drop_eq_nil_iff]
    omega
  have text : positional ds leading = ds.take (leading.toNat + 1) ++ '.' :: ds.drop (leading.toNat + 1) := by
    rw [positional, if_neg (Int.not_lt.mpr above)]
    simp [none, zeros, some]
  have first : ds.take (leading.toNat + 1) ≠ [] := by
    rw [Ne, List.take_eq_nil_iff]
    rintro (zero | rfl)
    · omega
    · exact absurd long (Nat.not_lt_zero _)
  have exponent : leading + 1 - ds.length = -(ds.length - (leading.toNat + 1) : Nat) := by omega
  have mantissa := mantissa_point (digits.of_subset (List.take_subset _ _)) first
    (digits.of_subset (List.drop_subset (leading.toNat + 1) ds))
  rw [List.take_append_drop, List.length_drop] at mantissa
  rwa [text, exponent, zpow_neg, zpow_natCast, ← div_eq_mul_inv]

theorem mantissa_positional (digits : Digits ds) (leading : Int) :
    Mantissa (positional ds leading) (readDigits ds * 10 ^ (leading + 1 - ds.length)) := by
  rcases Int.lt_or_le leading 0 with below | above
  · exact mantissa_positional_of_neg digits below
  · rcases Nat.lt_or_ge (leading.toNat + 1) ds.length with long | short
    · exact mantissa_positional_of_long digits above long
    · exact mantissa_positional_of_short digits above short

/-- One digit and the others behind a point, before the exponent. -/
theorem exists_mantissa_scientific {c : Char} (digits : Digits (c :: cs)) (layout : Layout) (leading : Int) :
    ∃ mantissa n, scientific layout (c :: cs) leading =
        mantissa ++ 'e' :: (if leading < 0 then '-' else '+') :: (zeros n ++ Nat.toDigits 10 leading.natAbs) ∧
      Mantissa mantissa (readDigits (c :: cs) / 10 ^ cs.length) := by
  by_cases none : cs = []
  · subst none
    refine ⟨[c], layout.exponentDigits - (Nat.toDigits 10 leading.natAbs).length, by simp [scientific], ?_⟩
    simpa using mantissa_whole digits (by simp)
  · have first : Digits [c] := digits.of_subset (by simp)
    have rest : Digits cs := digits.of_subset (List.subset_cons_self c cs)
    exact ⟨[c] ++ '.' :: cs, layout.exponentDigits - (Nat.toDigits 10 leading.natAbs).length,
      by simp [scientific, none], mantissa_point first (by simp) rest⟩

/-- The digits of a decimal without the zeros at their end write the same number under the exponent of the first
digit. -/
theorem exists_significant (positive : 0 < d.coefficient) :
    ∃ c cs, dropTrailingZeros (Nat.toDigits 10 d.coefficient) = c :: cs ∧ Digits (c :: cs) ∧
      d.value = readDigits (c :: cs) *
        10 ^ (d.exponent + (Nat.toDigits 10 d.coefficient).length - 1 - cs.length) := by
  obtain ⟨n, split⟩ := exists_dropped_zeros (Nat.toDigits 10 d.coefficient)
  have digits : Digits (dropTrailingZeros (Nat.toDigits 10 d.coefficient)) :=
    (split ▸ digits_toDigits d.coefficient).of_subset (List.subset_append_left _ _)
  have number := congrArg readDigits split
  have length := congrArg List.length split
  rw [readDigits_toDigits, readDigits_append_zeros] at number
  rw [List.length_append, zeros, List.length_replicate] at length
  cases same : dropTrailingZeros (Nat.toDigits 10 d.coefficient) with
  | nil =>
    rw [same] at number
    exact absurd number positive.ne'
  | cons c cs =>
    rw [same] at number length digits
    refine ⟨c, cs, rfl, digits, ?_⟩
    have exponent : d.exponent + (Nat.toDigits 10 d.coefficient).length - 1 - cs.length = n + d.exponent := by
      rw [length, List.length_cons]
      omega
    rw [exponent, Decimal.value, number, zpow_add₀ (by norm_num), zpow_natCast]
    push_cast
    ring

/-- The text of a decimal reads back as the decimal. -/
theorem text_reads_back (positive : 0 < d.coefficient) (layout : Layout) :
    IsNumeral (d.text layout).toList ∧ readDecimal (d.text layout).toList = d.value := by
  obtain ⟨c, cs, significant, digits, worth⟩ := exists_significant positive
  rw [Decimal.text, String.toList_ofList, significant, worth]
  generalize d.exponent + (Nat.toDigits 10 d.coefficient).length - 1 = leading
  by_cases medium : layout.leastPositional ≤ leading ∧ leading < layout.positionalLimit
  · have mantissa := mantissa_positional digits leading
    rw [if_pos medium, mantissa.readDecimal_eq, List.length_cons]
    refine ⟨mantissa.numeral, ?_⟩
    congr 2
    omega
  · obtain ⟨cs, n, text, mantissa⟩ := exists_mantissa_scientific digits layout leading
    obtain ⟨numeral, read⟩ := mantissa.exponent n leading
    rw [if_neg medium, text, read, zpow_sub₀ (by norm_num), zpow_natCast]
    exact ⟨numeral, by ring⟩

end GraphCalc.Double
