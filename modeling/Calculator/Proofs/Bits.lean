import Calculator.Number.Nearest
import Mathlib.Algebra.Group.Nat.Defs

/-!
# A double is its bits

**Theorem (`ofMagnitude_magnitudeOf`).** A double is put together again from its sign bit and its
magnitude.

The doubles of the logic are bit patterns, but they are built from a pattern by unpacking it into
sign, exponent and significand and packing these. Packing gives back the pattern that was unpacked
(`pack_unpack`), if only one NaN is admitted. There is one case for each of the five kinds of
doubles; what decides between them is the field of the exponent. So a double that is put together
from a sign and a magnitude, which is not the one of a NaN, has this sign
(`isNegative_ofMagnitude`).
-/

namespace Calculator.Number

open Float.Model hiding pack unpack
open Float.Model.UnpackedFloat

/-! ## The fields of a pattern -/

/-- The 64 bits of a double. -/
abbrev Bits := BitVec Format.binary64.numBits

theorem packComponents_fields (b : Bits) :
    packComponents Format.binary64 (Sign.ofBitVec (unpackSign b)) (unpackExponent b)
      (unpackMantissa b) = b := by
  have hsign : ∀ s : BitVec 1, (Sign.ofBitVec s).toBitVec = s := by decide
  have hfirst : unpackSign b = (b.extractLsb 63 63).cast rfl := rfl
  rw [packComponents, hsign, hfirst]
  apply BitVec.eq_of_getLsbD_eq
  intro i hi
  have hi : i < 64 := hi
  simp only [unpackExponent, unpackMantissa, BitVec.getLsbD_append, BitVec.getLsbD_cast,
    BitVec.getLsbD_extractLsb]
  by_cases hm : i < 52
  · rw [if_pos hm, decide_eq_true (by omega), Bool.true_and, Nat.zero_add]
  · rw [if_neg hm]
    by_cases he : i - 52 < 11
    · rw [if_pos he, decide_eq_true (by omega), Bool.true_and, Nat.add_sub_cancel' (by omega)]
    · rw [if_neg he, decide_eq_true (by omega), Bool.true_and]
      congr 1
      omega

/-! ## Packing -/

theorem pack_subnormal (s : Sign) {m : BitVec 52} {n : Nat} (hn : m.toNat = n) (h : 0 < n)
    {e : Int} (he : e = lowestExponent) :
    pack Format.binary64 (.finite s n e h) = packComponents Format.binary64 s 0#11 m := by
  have hlt : n < 2 ^ 52 := hn ▸ m.isLt
  have hlog : n.log2 < 52 := (Nat.log2_lt (by omega)).2 hlt
  have hbiased : (e + Format.binary64.exponentBias + (52 : Nat)).toNat = 1 := by
    rw [he]
    rfl
  have hbits : ¬n.log2 + 1 = Format.binary64.mantissaBits := by
    show ¬n.log2 + 1 = 53
    omega
  unfold pack
  dsimp only
  rw [hbiased, if_neg (by decide), if_neg hbits, ← hn, BitVec.ofNat_toNat, BitVec.setWidth_eq]

theorem pack_normal (s : Sign) {x : BitVec 11} (hx : x ≠ -1#11) {m : BitVec 52} {n : Nat}
    (hn : 2 ^ 52 + m.toNat = n) (h : 0 < n) {e : Int} (he : e = x.toNat - 1075) :
    pack Format.binary64 (.finite s n e h) = packComponents Format.binary64 s x m := by
  have hlt : m.toNat < 2 ^ 52 := m.isLt
  have hlog : n.log2 = 52 := by
    refine Nat.le_antisymm ?_ ((Nat.le_log2 (by omega)).2 (by omega))
    exact Nat.le_of_lt_succ ((Nat.log2_lt (by omega)).2 (by omega))
  have hbiased : (e + Format.binary64.exponentBias + (52 : Nat)).toNat = x.toNat := by
    rw [he]
    show ((x.toNat : Int) - 1075 + 1023 + 52).toNat = x.toNat
    omega
  have hrange : ¬2 ^ 11 ≤ x.toNat + 1 := by
    intro hle
    refine hx (BitVec.eq_of_toNat_eq ?_)
    have := x.isLt
    show x.toNat = 2047
    omega
  have hbits : n.log2 + 1 = Format.binary64.mantissaBits := by rw [hlog]; rfl
  unfold pack
  dsimp only
  rw [hbiased, if_neg hrange, if_pos hbits, BitVec.ofNat_toNat, BitVec.setWidth_eq]
  congr 1
  apply BitVec.eq_of_toNat_eq
  rw [BitVec.toNat_ofNat, ← hn, Nat.add_mod_left, Nat.mod_eq_of_lt hlt]

theorem pack_unpack {b : Bits} (h : Format.binary64.Valid b) :
    pack Format.binary64 (unpack Format.binary64 b) = b := by
  have hb := packComponents_fields b
  unfold unpack
  by_cases hinf : unpackExponent b = -1#11
  · by_cases hzero : unpackMantissa b = 0#52
    · rw [hinf, hzero] at hb
      rw [if_pos hinf, if_pos hzero]
      exact hb
    · rw [if_pos hinf, if_neg hzero]
      exact (h.eq_packedNaN hinf hzero).symm
  · by_cases hsub : unpackExponent b = 0#11
    · by_cases hzero : unpackMantissa b = 0#52
      · rw [hsub, hzero] at hb
        rw [if_neg hinf, if_pos hsub, dif_pos hzero]
        exact hb
      · have hlowest : ((unpackExponent b).toNat : Int) - (Format.binary64.exponentBias +
            Format.binary64.mantissaBitsWithoutImplicit) + 1 = lowestExponent := by
          rw [hsub]
          rfl
        rw [hsub] at hb
        rw [if_neg hinf, if_pos hsub, dif_neg hzero]
        exact (pack_subnormal _ rfl _ hlowest).trans hb
    · have happend : 2 ^ 52 + (unpackMantissa b).toNat = (1#1 ++ unpackMantissa b).toNat := by
        rw [BitVec.toNat_append, ← Nat.shiftLeft_add_eq_or_of_lt (unpackMantissa b).isLt]
        rfl
      rw [if_neg hinf, if_neg hsub]
      exact (pack_normal _ hinf happend _ rfl).trans hb

/-! ## Doubles -/

theorem ofBits_toBits (v : Float) : Float.ofBits v.toBits = v := by
  obtain ⟨bits, hvalid⟩ := v
  have hmodel : Float.Model.ofBits bits = ⟨bits, hvalid⟩ := by
    unfold Float.Model.ofBits Float.Model.pack
    rw [Float.Model.mk.injEq]
    exact congrArg UInt64.ofBitVec (pack_unpack hvalid)
  exact congrArg Float.ofModel hmodel

/-- A double is put together again from its sign bit and its magnitude. -/
theorem ofMagnitude_magnitudeOf (v : Float) :
    ofMagnitude (isNegative v) (magnitudeOf v) = v := by
  have hlt : v.toBits.toNat < 2 ^ 64 := v.toBits.toNat_lt
  have hnat : (if isNegative v then magnitudeOf v + 2 ^ 63 else magnitudeOf v) =
      v.toBits.toNat := by
    unfold isNegative magnitudeOf
    by_cases h : 2 ^ 63 ≤ v.toBits.toNat
    · rw [if_pos (decide_eq_true h)]
      omega
    · rw [if_neg (by simpa using h)]
      omega
  rw [ofMagnitude, hnat]
  show Float.ofBits (UInt64.ofNat v.toBits.toNat) = v
  rw [UInt64.ofNat_toNat, ofBits_toBits]

/-- A pattern that is no NaN is kept. -/
theorem toBits_ofBits {x : UInt64} (h : Format.binary64.Valid x.toBitVec) :
    (Float.ofBits x).toBits = x := by
  show UInt64.ofBitVec (pack Format.binary64 (unpack Format.binary64 x.toBitVec)) = x
  rw [pack_unpack h]

/-- A pattern whose magnitude is infinity at most is no NaN. -/
theorem valid_of_le_infinity {x : UInt64} (h : x.toNat % 2 ^ 63 ≤ infinity) :
    Format.binary64.Valid x.toBitVec := by
  constructor
  intro hexponent hmantissa
  have hones : x.toNat / 2 ^ 52 % 2 ^ 11 = 2047 := by
    have hfield := congrArg BitVec.toNat hexponent
    simpa [unpackExponent, Nat.shiftRight_eq_div_pow] using hfield
  have hzero : x.toNat % 2 ^ 52 = 0 := by
    unfold infinity at h
    omega
  refine absurd (BitVec.eq_of_toNat_eq ?_) hmantissa
  simpa [unpackMantissa] using hzero

/-- The sign of a double that is put together is the given one. -/
theorem isNegative_ofMagnitude (negative : Bool) {w : Nat} (h : w ≤ infinity) :
    isNegative (ofMagnitude negative w) = negative := by
  have hinf : infinity < 2 ^ 63 := by decide
  have hbits : ∀ n : Nat, n < 2 ^ 64 → n % 2 ^ 63 ≤ infinity →
      (Float.ofBits n.toUInt64).toBits.toNat = n := by
    intro n hn hle
    have hnat : n.toUInt64.toNat = n := UInt64.toNat_ofNat_of_lt' hn
    rw [toBits_ofBits (valid_of_le_infinity (by rwa [hnat])), hnat]
  unfold isNegative ofMagnitude
  cases negative with
  | true =>
    rw [if_pos rfl, hbits _ (by omega) (by omega)]
    exact decide_eq_true (by omega)
  | false =>
    rw [if_neg (by decide), hbits _ (by omega) (by omega)]
    exact decide_eq_false (by omega)

end Calculator.Number
