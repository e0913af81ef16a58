import RouterPoll.Decimal.Binary64

/-!
# Doubles that are numbers

A double is no number only by its bits: the largest exponent and some digit of the mantissa. Neither a finite double nor the double nearest to a whole number has such bits.
-/

namespace RouterPoll

namespace Decimal

open Float.Model (UnpackedFloat Format)
open Float.Model.UnpackedFloat (unpackExponent unpackMantissa unpack pack packComponents)

/-! ### The fields of the bits -/

theorem toNat_unpackExponent (bits : BitVec 64) :
    (@unpackExponent Format.binary64 bits).toNat = bits.toNat / leadingBit % 2048 := by
  rw [unpackExponent, BitVec.toNat_cast, BitVec.extractLsb_toNat, Nat.shiftRight_eq_div_pow]
  rfl

theorem toNat_unpackMantissa (bits : BitVec 64) :
    (@unpackMantissa Format.binary64 bits).toNat = bits.toNat % leadingBit := by
  rw [unpackMantissa, BitVec.toNat_cast, BitVec.extractLsb_toNat, Nat.shiftRight_eq_div_pow]
  show bits.toNat / 1 % 4503599627370496 = _
  rw [Nat.div_one]
  rfl

theorem isNaN_unpack (bits : BitVec Format.binary64.numBits) :
    (unpack Format.binary64 bits).isNaN = true
      ↔ unpackExponent bits = -1#_ ∧ unpackMantissa bits ≠ 0#_ := by
  unfold unpack
  dsimp only
  by_cases hlargest : unpackExponent bits = -1#_
  · rw [if_pos hlargest]
    by_cases hzero : unpackMantissa bits = 0#_
    · rw [if_pos hzero]
      exact iff_of_false Bool.false_ne_true fun hbits => hbits.2 hzero
    · rw [if_neg hzero]
      exact iff_of_true rfl ⟨hlargest, hzero⟩
  · rw [if_neg hlargest]
    refine iff_of_false ?_ fun hbits => hlargest hbits.1
    by_cases hsmallest : unpackExponent bits = 0#_
    · rw [if_pos hsmallest]
      by_cases hzero : unpackMantissa bits = 0#_
      · rw [dif_pos hzero]
        exact Bool.false_ne_true
      · rw [dif_neg hzero]
        exact Bool.false_ne_true
    · rw [if_neg hsmallest]
      exact Bool.false_ne_true

theorem isNaN_unpack_iff (bits : BitVec 64) :
    (unpack Format.binary64 bits).isNaN = true
      ↔ bits.toNat / leadingBit % 2048 = 2047 ∧ bits.toNat % leadingBit ≠ 0 := by
  rw [isNaN_unpack, ← BitVec.toNat_inj, toNat_unpackExponent, ne_eq, ← BitVec.toNat_inj, toNat_unpackMantissa]
  rfl

theorem isNaN_eq_false_of_isFinite {value : Float} (hfinite : isFinite value = true) : value.isNaN = false := by
  rw [Bool.eq_false_iff]
  intro hnan
  obtain ⟨hlargest, hdigits⟩ := (isNaN_unpack_iff value.toModel.toBits.toBitVec).1 hnan
  have hparts : parts value = .nan := by
    unfold parts
    simp only
    rw [if_pos, if_neg]
    · rw [beq_iff_eq]; exact hdigits
    · rw [beq_iff_eq]; exact hlargest
  rw [isFinite, hparts] at hfinite
  cases hfinite

/-- Components that do not have the largest exponent, or have no digits, stand for a number. -/
theorem isNaN_unpack_packComponents {sign : UnpackedFloat.Sign} {exponent : BitVec Format.binary64.exponentBits}
    {mantissa : BitVec Format.binary64.mantissaBitsWithoutImplicit} (hnumber : exponent = -1#_ → mantissa = 0#_) :
    (unpack Format.binary64 (packComponents Format.binary64 sign exponent mantissa)).isNaN = false := by
  rw [Bool.eq_false_iff, ne_eq, isNaN_unpack, UnpackedFloat.unpackExponent_packComponents,
    UnpackedFloat.unpackMantissa_packComponents]
  exact fun hbits => hbits.2 (hnumber hbits.1)

theorem isNaN_unpack_pack (value : UnpackedFloat) (hnumber : value.isNaN = false) :
    (unpack Format.binary64 (pack Format.binary64 value)).isNaN = false := by
  have hinfinity (sign : UnpackedFloat.Sign) :
      (unpack Format.binary64 (packComponents Format.binary64 sign (-1#_) 0)).isNaN = false :=
    isNaN_unpack_packComponents fun _ => rfl
  have hsmall (sign : UnpackedFloat.Sign) (mantissa : BitVec Format.binary64.mantissaBitsWithoutImplicit) :
      (unpack Format.binary64 (packComponents Format.binary64 sign 0#_ mantissa)).isNaN = false :=
    isNaN_unpack_packComponents fun hzero => absurd hzero (by decide)
  cases value with
  | notANumber => cases hnumber
  | infinity sign => exact hinfinity sign
  | zero sign => exact hsmall sign 0
  | finite sign mantissa exponent hpos =>
      show (unpack Format.binary64 (if 2 ^ Format.binary64.exponentBits
        ≤ (exponent + Format.binary64.exponentBias + Format.binary64.mantissaBitsWithoutImplicit).toNat + 1 then _
        else _)).isNaN = false
      split
      · exact hinfinity sign
      · rename_i hexponent
        split
        · refine isNaN_unpack_packComponents fun hlargest => ?_
          rw [← BitVec.toNat_inj, BitVec.toNat_ofNat] at hlargest
          have htop : (-BitVec.ofNat Format.binary64.exponentBits 1).toNat = 2047 := rfl
          have hpower : 2 ^ Format.binary64.exponentBits = 2048 := rfl
          rw [htop, hpower] at hlargest
          rw [hpower] at hexponent
          omega
        · exact hsmall sign _

theorem isNaN_ofBits {bits : UInt64} (hbits : bits.toNat ≤ 2047 * leadingBit) : (Float.ofBits bits).isNaN = false := by
  refine isNaN_unpack_pack _ ?_
  rw [Bool.eq_false_iff, ne_eq]
  intro hnan
  obtain ⟨hlargest, hdigits⟩ := (isNaN_unpack_iff bits.toBitVec).1 hnan
  have hbound : bits.toBitVec.toNat ≤ 2047 * leadingBit := hbits
  unfold leadingBit at hlargest hdigits hbound
  omega

theorem isNaN_neg {value : Float} (hnumber : value.isNaN = false) : (-value).isNaN = false := by
  have hneg : value.toModel.unpack.neg.isNaN = value.toModel.unpack.isNaN := by
    cases value.toModel.unpack <;> rfl
  exact isNaN_unpack_pack _ (hneg.trans hnumber)

theorem isNaN_zero : (Float.ofBits 0).isNaN = false := isNaN_ofBits (Nat.zero_le _)

theorem toNat_assemble_le (mantissa : Nat) (exponent : Int) :
    (assemble mantissa exponent).toUInt64.toNat ≤ 2047 * leadingBit := by
  have hsize : assemble mantissa exponent ≤ 2047 * leadingBit := Nat.min_le_right _ _
  have hmod : (assemble mantissa exponent).toUInt64.toNat = assemble mantissa exponent % 2 ^ 64 := UInt64.toNat_ofNat'
  rw [hmod]
  exact Nat.le_trans (Nat.mod_le _ _) hsize

theorem isNaN_rounded (numerator denominator : Nat) (exponent : Int) :
    (match scaleDown numerator denominator exponent with
      | (top, bottom) => Float.ofBits (assemble (divideToEven top bottom) exponent).toUInt64).isNaN = false := by
  cases scaleDown numerator denominator exponent with
  | mk top bottom => exact isNaN_ofBits (toNat_assemble_le (divideToEven top bottom) exponent)

theorem isNaN_nearest (numerator denominator : Nat) : (nearest numerator denominator).isNaN = false := by
  rw [nearest]
  split
  · exact isNaN_zero
  · exact isNaN_rounded numerator denominator (mantissaExponent numerator denominator)

theorem isNaN_ofInt (value : Int) : (ofInt value).isNaN = false := by
  cases value with
  | ofNat value => exact isNaN_nearest value 1
  | negSucc value => exact isNaN_neg (isNaN_nearest (value + 1) 1)

end Decimal

end RouterPoll
