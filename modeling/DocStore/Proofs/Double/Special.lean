import DocStore.Decimal.Reading

/-!
# Infinity and NaN

Only one pattern of bits unpacks to the positive infinity, so the double that is equal to it is itself. Nothing is equal
to NaN.
-/

namespace DocStore.Double

open Float.Model (Format UnpackedFloat)

section
variable {b : BitVec 64}

/-- Exponent all ones, no mantissa and no sign. -/
theorem parts_of_unpack (h : UnpackedFloat.unpack Format.binary64 b = .infinity .positive) :
    @UnpackedFloat.unpackExponent Format.binary64 b = -1#11 ∧
      @UnpackedFloat.unpackMantissa Format.binary64 b = 0#52 ∧
      @UnpackedFloat.unpackSign Format.binary64 b = 0#1 := by
  delta UnpackedFloat.unpack at h
  dsimp only at h
  by_cases hexponent : @UnpackedFloat.unpackExponent Format.binary64 b = -1#11
  · rw [if_pos hexponent] at h
    by_cases hmantissa : @UnpackedFloat.unpackMantissa Format.binary64 b = 0#52
    · refine ⟨hexponent, hmantissa, ?_⟩
      rw [if_pos hmantissa, UnpackedFloat.Sign.ofBitVec] at h
      by_cases hsign : @UnpackedFloat.unpackSign Format.binary64 b = 0#1
      · exact hsign
      · rw [if_neg hsign] at h
        cases h
    · rw [if_neg hmantissa] at h
      cases h
  · rw [if_neg hexponent] at h
    by_cases hleast : @UnpackedFloat.unpackExponent Format.binary64 b = 0#11
    · rw [if_pos hleast] at h
      by_cases hmantissa : @UnpackedFloat.unpackMantissa Format.binary64 b = 0#52
      · rw [dif_pos hmantissa] at h
        cases h
      · rw [dif_neg hmantissa] at h
        cases h
    · rw [if_neg hleast] at h
      cases h

theorem bits_of_unpack (h : UnpackedFloat.unpack Format.binary64 b = .infinity .positive) :
    b = 0x7FF0000000000000#64 := by
  obtain ⟨hexponent, hmantissa, hsign⟩ := parts_of_unpack h
  have hones : b.toNat / 2 ^ 52 % 2 ^ 11 = 2047 := by
    simpa [UnpackedFloat.unpackExponent, BitVec.extractLsb, Nat.shiftRight_eq_div_pow]
      using congrArg BitVec.toNat hexponent
  have hzeros : b.toNat % 2 ^ 52 = 0 := by
    simpa [UnpackedFloat.unpackMantissa, BitVec.extractLsb] using congrArg BitVec.toNat hmantissa
  have htop : b.toNat / 2 ^ 63 % 2 = 0 := by
    rw [← Nat.shiftRight_eq_div_pow]
    exact congrArg BitVec.toNat hsign
  have hlt := b.isLt
  apply BitVec.eq_of_toNat_eq
  rw [BitVec.toNat_ofNat]
  omega

end

theorem eq_infinity_of_unpack {x : Float} (h : x.toModel.unpack = .infinity .positive) : x = Decimal.infinity := by
  obtain ⟨⟨⟨b⟩, hvalid⟩⟩ := x
  obtain rfl := bits_of_unpack h
  rfl

theorem same_infinity_iff {x : Float} : (x == Decimal.infinity) = true ↔ x = Decimal.infinity := by
  have hinfinity : Decimal.infinity.toModel.unpack = .infinity .positive := rfl
  constructor
  · intro h
    have hequal : x.toModel.unpack.beq Decimal.infinity.toModel.unpack = true := h
    rw [hinfinity] at hequal
    apply eq_infinity_of_unpack
    generalize x.toModel.unpack = u at hequal
    -- everything but the infinity itself is less than it, or NaN
    cases u with
    | infinity s => cases s with
      | positive => rfl
      | negative => cases hequal
    | finite s => cases s <;> cases hequal
    | _ => cases hequal
  · rintro rfl
    decide +kernel

theorem same_nan (x : Float) : (x == 0.0 / 0.0) = false := by
  have hnan : (0.0 / 0.0 : Float).toModel.unpack = .notANumber := rfl
  have hequal : (x == 0.0 / 0.0) = x.toModel.unpack.beq (0.0 / 0.0 : Float).toModel.unpack := rfl
  rw [hequal, hnan]
  cases x.toModel.unpack <;> rfl

end DocStore.Double
