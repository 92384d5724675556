import GraphCalc.Proofs.Comparisons
import GraphCalc.Proofs.Rounding

/-!
# Packed doubles

A rounded mantissa and its exponent are packed into the bits of a double, and unpacked again where the double
is used. Nothing is lost on the way except an exponent that is too large, for which the double is an infinity:
`unpack_pack`. Every double but what is not a number has such a form, `saturated`, and the rank of a double
can be read off it.
-/

namespace GraphCalc.Double

open Float.Model Float.Model.UnpackedFloat

variable {x : Float} {m n : Nat} {e d : Int} {sign : Sign}

/-- The largest exponent of a finite double. -/
def maxExponent : Int := 971

/-- The unpacked form of a mantissa and an exponent, an infinity where the exponent is too large. -/
def saturated (sign : Sign) (m : Nat) (e : Int) : UnpackedFloat :=
  if maxExponent < e then .infinity sign else unpacked sign m e

theorem ofBitVec_unpackSign_packComponents {spec : Format} (exponent : BitVec spec.exponentBits)
    (mantissa : BitVec spec.mantissaBitsWithoutImplicit) :
    Sign.ofBitVec (unpackSign (packComponents spec sign exponent mantissa)) = sign := by
  have same : unpackSign (packComponents spec sign exponent mantissa) = sign.toBitVec := by
    ext i small
    obtain rfl : i = 0 := by omega
    show (BitVec.cast _ (BitVec.extractLsb _ _ (sign.toBitVec ++ exponent ++ mantissa)))[0] = _
    simp [BitVec.getLsbD_append, BitVec.getElem_append]
  rw [same]
  cases sign <;> rfl

theorem Canonical.exponent_of_zero (canonical : Canonical 0 e) : e = minExponent :=
  canonical.full.resolve_left (by decide)

/-- The unpacked form of a double that is finite, from the parts of its bits. -/
theorem unpack_packComponents {exponent : BitVec 11} {mantissa : BitVec 52} (notTop : exponent ≠ -1#11) :
    UnpackedFloat.unpack .binary64 (packComponents .binary64 sign exponent mantissa) =
      if exponent = 0#11 then unpacked sign mantissa.toNat minExponent
      else unpacked sign (1#1 ++ mantissa).toNat (exponent.toNat - 1075) := by
  have exponentPart := @unpackExponent_packComponents .binary64 sign exponent mantissa
  have mantissaPart := @unpackMantissa_packComponents .binary64 sign exponent mantissa
  have signPart := @ofBitVec_unpackSign_packComponents sign .binary64 exponent mantissa
  -- once the bits are any bits, their parts can take the places of the variables
  generalize packComponents .binary64 sign exponent mantissa = b at *
  subst exponentPart mantissaPart signPart
  unfold UnpackedFloat.unpack unpacked
  dsimp only
  rw [if_neg notTop]
  by_cases bottom : unpackExponent b = 0#11
  · rw [if_pos bottom, if_pos bottom]
    have same : (unpackMantissa b).toNat = 0 ↔ unpackMantissa b = 0#52 := by
      rw [← BitVec.toNat_inj, BitVec.toNat_zero]
    by_cases empty : unpackMantissa b = 0#52
    · rw [dif_pos empty, dif_pos (same.mpr empty)]
    · rw [dif_neg empty, dif_neg (mt same.mp empty), bottom]
      rfl
  · have leading : (1#1 ++ unpackMantissa b).toNat ≠ 0 := by
      rw [BitVec.toNat_append, ← Nat.shiftLeft_add_eq_or_of_lt (BitVec.isLt _)]
      simp
    rw [if_neg bottom, if_neg bottom, dif_neg leading]
    rfl

/-- The unpacked form of a double under the least exponent. -/
theorem unpack_packComponents_zero (fits : m < 2 ^ 52) :
    UnpackedFloat.unpack .binary64 (packComponents .binary64 sign 0#11 (BitVec.ofNat 52 m)) =
      unpacked sign m minExponent := by
  rw [unpack_packComponents (by decide), if_pos rfl, BitVec.toNat_ofNat, Nat.mod_eq_of_lt fits]

/-- The unpacked form of a double whose mantissa has all its bits, the first of which is not packed. -/
theorem unpack_packComponents_pos {exponent : Nat} (inside : 0 < exponent ∧ exponent < 2047)
    (full : 2 ^ 52 ≤ m) (fits : m < 2 ^ 53) :
    UnpackedFloat.unpack .binary64
        (packComponents .binary64 sign (BitVec.ofNat 11 exponent) (BitVec.ofNat 52 m)) =
      unpacked sign m (exponent - 1075) := by
  have bits : (BitVec.ofNat 11 exponent).toNat = exponent :=
    BitVec.toNat_ofNat exponent 11 ▸ Nat.mod_eq_of_lt (by omega)
  have notTop : BitVec.ofNat 11 exponent ≠ -1#11 := fun top => by
    have := congrArg BitVec.toNat top
    rw [bits] at this
    simp at this
    omega
  have notBottom : BitVec.ofNat 11 exponent ≠ 0#11 := fun bottom => by
    have := congrArg BitVec.toNat bottom
    rw [bits] at this
    simp at this
    omega
  have mantissa : (1#1 ++ BitVec.ofNat 52 m).toNat = m := by
    rw [BitVec.toNat_append, ← Nat.shiftLeft_add_eq_or_of_lt (BitVec.isLt _), BitVec.toNat_ofNat]
    simp
    omega
  rw [unpack_packComponents notTop, if_neg notBottom, mantissa, bits]

/-- Packing and unpacking loses nothing but an exponent that is too large. -/
theorem unpack_pack (canonical : Canonical m e) :
    (Float.Model.pack (unpacked sign m e)).unpack = saturated sign m e := by
  have least := canonical.least
  have below := canonical.below
  have full := canonical.full
  rw [minExponent, mantissaLimit] at *
  by_cases zero : m = 0
  · obtain rfl : e = -1074 := full.resolve_left (by omega)
    subst zero
    cases sign <;> rfl
  · have packed : UnpackedFloat.pack .binary64 (unpacked sign m e) =
        if 2048 ≤ (e + 1023 + 52).toNat + 1 then packedInfinity .binary64 sign
        else if m.log2 + 1 = 53 then
          packComponents .binary64 sign (BitVec.ofNat 11 (e + 1023 + 52).toNat) (BitVec.ofNat 52 m)
        else packComponents .binary64 sign 0#11 (BitVec.ofNat 52 m) := by
      rw [unpacked_of_ne_zero zero]
      rfl
    show UnpackedFloat.unpack .binary64 (UnpackedFloat.pack .binary64 (unpacked sign m e)) = _
    rw [packed, saturated, maxExponent]
    by_cases large : 971 < e
    · rw [if_pos (by omega), if_pos large]
      cases sign <;> rfl
    · rw [if_neg (by omega), if_neg large]
      by_cases normal : 2 ^ 52 ≤ m
      · have bits : m.log2 = 52 := (Nat.log2_eq_iff zero).mpr ⟨normal, below⟩
        rw [if_pos (by omega), unpack_packComponents_pos (by omega) normal below]
        congr 1
        omega
      · have bits : m.log2 < 52 := (Nat.log2_lt zero).mpr (by omega)
        rw [if_neg (by omega), unpack_packComponents_zero (by omega)]
        congr 1
        rw [minExponent]
        omega

theorem saturated_of_le (inside : e ≤ maxExponent) : saturated sign m e = unpacked sign m e :=
  if_neg (Int.not_lt.mpr inside)

theorem isNumber_of_saturated (shape : x.toModel.unpack = saturated sign m e) : IsNumber x := by
  rw [IsNumber, shape, saturated]
  intro none
  by_cases large : maxExponent < e
  · rw [if_pos large] at none
    cases none
  · rw [if_neg large] at none
    by_cases zero : m = 0
    · subst zero
      cases none
    · rw [unpacked_of_ne_zero zero] at none
      cases none

theorem isFinite_of_unpacked (shape : x.toModel.unpack = unpacked sign m e) : x.isFinite := by
  have unfolded : x.isFinite = x.toModel.unpack.isFinite := rfl
  rw [unfolded, shape]
  by_cases zero : m = 0
  · subst zero
    rfl
  · rw [unpacked_of_ne_zero zero]
    rfl

/-- A finite double has a mantissa and an exponent within the format. -/
theorem exists_unpacked (finite : x.isFinite) :
    ∃ sign m e, Canonical m e ∧ e ≤ maxExponent ∧ x.toModel.unpack = unpacked sign m e := by
  replace finite : x.toModel.unpack.isFinite = true := finite
  cases shape : x.toModel.unpack with
  | notANumber | infinity =>
    rw [shape] at finite
    cases finite
  | zero sign => exact ⟨sign, 0, minExponent, .zero, by decide, rfl⟩
  | finite sign m e positive =>
    obtain ⟨short, low, high, full⟩ := unpack_finite_shape shape
    exact ⟨sign, m, e, ⟨short, low, full⟩, high, by rw [unpacked_of_ne_zero positive.ne']⟩

/-- The rank of a magnitude, the infinite rank where the exponent is too large. -/
def cappedRank (m : Nat) (e : Int) : Nat :=
  if maxExponent < e then infiniteRank else magnitudeRank m e

theorem rank_eq (canonical : Canonical m e) (shape : x.toModel.unpack = saturated sign m e) :
    rank x = sign.apply (cappedRank m e) := by
  unfold rank cappedRank
  rw [shape, saturated]
  by_cases large : maxExponent < e
  · rw [if_pos large, if_pos large]
    cases sign <;> rfl
  · rw [if_neg large, if_neg large]
    by_cases zero : m = 0
    · subst zero
      obtain rfl : e = minExponent := canonical.exponent_of_zero
      cases sign <;> rfl
    · rw [unpacked_of_ne_zero zero]
      cases sign <;> rfl

/-- Ranks are capped in order. -/
theorem cappedRank_le (cm : Canonical m e) (cn : Canonical n d)
    (le : magnitudeRank m e ≤ magnitudeRank n d) : cappedRank m e ≤ cappedRank n d := by
  have := cm.below
  have := cn.below
  have := cm.least
  have := cn.least
  unfold cappedRank
  by_cases first : maxExponent < e
  · -- a larger rank has an exponent that is as large
    have second : maxExponent < d := by
      simp only [magnitudeRank, minExponent, mantissaLimit, maxExponent] at *
      omega
    rw [if_pos first, if_pos second]
  · rw [if_neg first]
    by_cases second : maxExponent < d
    · rw [if_pos second]
      simp only [magnitudeRank, minExponent, mantissaLimit, infiniteRank, maxExponent] at *
      omega
    · rwa [if_neg second]

end GraphCalc.Double
