import DocStore.Json.Number
import DocStore.Proofs.Double.Rounding
import Mathlib.Algebra.Group.Nat.Defs

/-!
# Doubles without overflow

A double is packed from a sign, a mantissa and an exponent, and is finite as long as the exponent stays below that of
infinity. Whole numbers of 64 bits and powers of ten are, and so is a number scaled up unless that is reported.
-/

namespace DocStore.Json

open Double (log2_lt_of_lt mantissa_shiftRight)
open Float.Model (Format UnpackedFloat)

/-! ## Packing -/

theorem isFinite_unpack {b : BitVec Format.binary64.numBits}
    (h : UnpackedFloat.unpackExponent b ≠ -1#_) : (UnpackedFloat.unpack Format.binary64 b).isFinite = true := by
  unfold UnpackedFloat.unpack
  dsimp only
  rw [if_neg h]
  by_cases hexp : UnpackedFloat.unpackExponent b = 0#_
  · rw [if_pos hexp]
    by_cases hm : UnpackedFloat.unpackMantissa b = 0#_
    · rw [dif_pos hm]; rfl
    · rw [dif_neg hm]; rfl
  · rw [if_neg hexp]; rfl

theorem isFinite_pack {s : UnpackedFloat.Sign} {m : Nat} {e : Int} {hm : 0 < m} (he : e ≤ 971) :
    (Float.Model.pack (.finite s m e hm)).unpack.isFinite = true := by
  have hbits : (Float.Model.pack (.finite s m e hm)).toBits.toBitVec =
      UnpackedFloat.pack Format.binary64 (.finite s m e hm) := rfl
  rw [Float.Model.unpack, hbits]
  apply isFinite_unpack
  unfold UnpackedFloat.pack
  dsimp only
  have hbias : Format.binary64.exponentBias = 1023 := rfl
  rw [hbias, if_neg (by omega)]
  split
  · rw [UnpackedFloat.unpackExponent_packComponents]
    intro h
    have := congrArg BitVec.toNat h
    simp at this
    omega
  · rw [UnpackedFloat.unpackExponent_packComponents]
    decide

theorem isNaN_pack {u : UnpackedFloat} (h : u.isNaN = false) : (Float.Model.pack u).unpack.isNaN = false := by
  have hbits : (Float.Model.pack u).toBits.toBitVec = UnpackedFloat.pack Format.binary64 u := rfl
  rw [Float.Model.unpack, hbits]
  cases u with
  | notANumber => cases h
  | infinity s => cases s <;> decide +kernel
  | zero s => cases s <;> decide +kernel
  | finite s m e hm =>
    by_cases he : e ≤ 971
    · have hfinite := @isFinite_pack s m e hm he
      rw [Float.Model.unpack, hbits] at hfinite
      generalize UnpackedFloat.unpack _ _ = v at hfinite
      cases v <;> first | rfl | cases hfinite
    · have hinfinite : UnpackedFloat.pack Format.binary64 (.finite s m e hm) =
          UnpackedFloat.packedInfinity Format.binary64 s := by
        unfold UnpackedFloat.pack
        have hbias : Format.binary64.exponentBias = 1023 := rfl
        dsimp only
        rw [hbias, if_pos (by omega)]
      rw [hinfinite]
      cases s <;> decide +kernel

theorem exponent_le {x : Float.Model} {s m e hm} (h : x.unpack = .finite s m e hm) : e ≤ 971 := by
  unfold Float.Model.unpack UnpackedFloat.unpack at h
  dsimp only at h
  by_cases hexp : @UnpackedFloat.unpackExponent Format.binary64 x.toBits.toBitVec = -1#_
  · rw [if_pos hexp] at h
    by_cases hm : @UnpackedFloat.unpackMantissa Format.binary64 x.toBits.toBitVec = 0#_
    · rw [if_pos hm] at h; cases h
    · rw [if_neg hm] at h; cases h
  · rw [if_neg hexp] at h
    have hlt := (@UnpackedFloat.unpackExponent Format.binary64 x.toBits.toBitVec).isLt
    have hne : (@UnpackedFloat.unpackExponent Format.binary64 x.toBits.toBitVec).toNat ≠ 2047 := by
      intro hn
      apply hexp
      apply BitVec.eq_of_toNat_eq
      rw [hn]; rfl
    have hbias : Format.binary64.exponentBias = 1023 := rfl
    rw [hbias] at h
    by_cases hz : @UnpackedFloat.unpackExponent Format.binary64 x.toBits.toBitVec = 0#_
    · rw [if_pos hz] at h
      by_cases hm : @UnpackedFloat.unpackMantissa Format.binary64 x.toBits.toBitVec = 0#_
      · rw [dif_pos hm] at h; cases h
      · rw [dif_neg hm] at h
        cases h
        rw [hz]
        decide
    · rw [if_neg hz] at h
      cases h
      simp only [Format.binary64] at hlt hne ⊢
      omega

/-! ## Rounding -/

theorem roundedMantissa_le (em : UnpackedFloat.ExtendedMantissa) : em.roundedMantissa ≤ em.mantissa + 1 := by
  unfold UnpackedFloat.ExtendedMantissa.roundedMantissa
  cases em.accuracy with
  | exact => exact Nat.le_succ _
  | inexact o =>
    cases o with
    | lt => exact Nat.le_succ _
    | eq => simp only [UnpackedFloat.Accuracy.roundToNearestEven]; omega
    | gt => exact Nat.le_refl _

/-- A shift leaves at most 53 digits, and raises the exponent no further than that takes. -/
theorem shiftToTargetExponent_bounds (m : Nat) (e : Int) :
    (UnpackedFloat.shiftToTargetExponent Format.binary64 m e .exact).1.mantissa < 2 ^ 53 ∧
      (UnpackedFloat.shiftToTargetExponent Format.binary64 m e .exact).2 = max e (max (m.log2 + e - 52) (-1074)) := by
  have hmin : Format.binary64.minExponent = -1074 := rfl
  have hbits : Format.binary64.mantissaBits = 53 := rfl
  simp only [UnpackedFloat.shiftToTargetExponent, UnpackedFloat.shiftToExponent, Format.targetExponent, hmin, hbits,
    Float.Model.totalExponent, mantissa_shiftRight, UnpackedFloat.ExtendedMantissa.ofMantissaAndAccuracy]
  refine ⟨?_, by omega⟩
  generalize hk : (max ((m.log2 : Int) + 1 + e - (53 : Nat)) (-1074) - e).toNat = k
  have hlog : m.log2 + 1 ≤ 53 + k := by omega
  rw [Nat.div_lt_iff_lt_mul (Nat.two_pow_pos k), ← Nat.pow_add]
  exact Nat.lt_of_lt_of_le Nat.lt_log2_self (Nat.pow_le_pow_right (by decide) hlog)

/-- Rounding raises the exponent by one place at most. -/
theorem isFinite_roundWithAccuracy {s : UnpackedFloat.Sign} {m : Nat} {e : Int} (he : e ≤ 970)
    (hm : m.log2 + e ≤ 1022) :
    (Float.Model.pack (UnpackedFloat.roundWithAccuracy Format.binary64 s m e .exact)).unpack.isFinite = true := by
  unfold UnpackedFloat.roundWithAccuracy
  dsimp only
  obtain ⟨hmantissa, hfirst⟩ := shiftToTargetExponent_bounds m e
  have hrounded := roundedMantissa_le (UnpackedFloat.shiftToTargetExponent Format.binary64 m e .exact).1
  generalize UnpackedFloat.shiftToTargetExponent Format.binary64 m e .exact = first at hmantissa hfirst hrounded
  have hlog : first.1.roundedMantissa.log2 < 54 := log2_lt_of_lt (by decide) (by omega)
  obtain ⟨-, hsecond⟩ := shiftToTargetExponent_bounds first.1.roundedMantissa first.2
  generalize UnpackedFloat.shiftToTargetExponent Format.binary64 _ _ .exact = second at hsecond
  by_cases hzero : second.1.mantissa = 0
  · rw [dif_pos hzero]
    cases s <;> decide +kernel
  · rw [dif_neg hzero]
    exact isFinite_pack (by rw [hsecond, hfirst]; omega)

/-! ## Operations on doubles -/

theorem isFinite_toFloat (n : UInt64) : n.toFloat.isFinite = true := by
  have hsize : n.toNat < 2 ^ 64 := n.toNat_lt
  show (Float.Model.pack (UnpackedFloat.normalize Format.binary64 (n.toNat : Int) 0 .positive)).unpack.isFinite = true
  unfold UnpackedFloat.normalize
  split
  · rename_i h; have hlt := Int.compare_eq_lt.mp h; omega
  · decide +kernel
  · rename_i h
    have hpos := Int.compare_eq_gt.mp h
    have hlog := log2_lt_of_lt (by decide) hsize
    have hmin : Format.binary64.minExponent = -1074 := rfl
    have hbits : Format.binary64.mantissaBits = 53 := rfl
    simp only [UnpackedFloat.round, UnpackedFloat.decreaseExponent, Format.targetExponent, hmin, hbits,
      Float.Model.totalExponent, Int.toNat_natCast]
    refine isFinite_roundWithAccuracy (by omega) ?_
    have hdigits : (n.toNat <<< (0 - max ((n.toNat.log2 : Int) + 1 + 0 - (53 : Nat)) (-1074)).toNat).log2 < 116 := by
      apply log2_lt_of_lt (by decide)
      have hshift : (0 - max ((n.toNat.log2 : Int) + 1 + 0 - (53 : Nat)) (-1074)).toNat ≤ 52 := by omega
      rw [Nat.shiftLeft_eq]
      calc n.toNat * 2 ^ _ ≤ n.toNat * 2 ^ 52 := Nat.mul_le_mul_left _ (Nat.pow_le_pow_right (by decide) hshift)
        _ < 2 ^ 64 * 2 ^ 52 := Nat.mul_lt_mul_of_pos_right hsize (by decide)
        _ = 2 ^ 116 := rfl
    omega

theorem isFinite_neg {x : Float} (h : x.isFinite = true) : (-x).isFinite = true := by
  show (Float.Model.pack x.toModel.unpack.neg).unpack.isFinite = true
  have hx : x.toModel.unpack.isFinite = true := h
  cases hu : x.toModel.unpack with
  | notANumber => rw [hu] at hx; cases hx
  | infinity s => rw [hu] at hx; cases hx
  | zero s => cases s <;> decide +kernel
  | finite s m e hm => exact isFinite_pack (exponent_le hu)

theorem log2_shifted_lt {m k : Nat} (h : m < 2 ^ k) : (1 <<< 53 * m).log2 < 53 + k := by
  refine log2_lt_of_lt (by omega) ?_
  rw [Nat.one_shiftLeft, Nat.pow_add]
  exact Nat.mul_lt_mul_of_pos_left h (Nat.two_pow_pos 53)

theorem ten_pow_lt {p k : Nat} (hp : p ≤ 31 * k + 28) : 10 ^ p < 2 ^ (103 * k + 94) :=
  calc 10 ^ p ≤ 10 ^ (31 * k + 28) := Nat.pow_le_pow_right (by decide) hp
    _ = (10 ^ 31) ^ k * 10 ^ 28 := (Nat.pow_add ..).trans (congrArg (· * 10 ^ 28) (Nat.pow_mul ..))
    _ ≤ (2 ^ 103) ^ k * 10 ^ 28 := Nat.mul_le_mul_right _ (Nat.pow_le_pow_left (by decide) k)
    _ < (2 ^ 103) ^ k * 2 ^ 94 := Nat.mul_lt_mul_of_pos_left (by decide) (Nat.pow_pos (by decide))
    _ = 2 ^ (103 * k + 94) := ((Nat.pow_add ..).trans (congrArg (· * 2 ^ 94) (Nat.pow_mul ..))).symm

theorem isFinite_tenTo {p : Nat} (hp : p ≤ 308) : (tenTo p).isFinite = true := by
  by_cases hsmall : p ≤ 22
  · have h : ∀ q ≤ 22, (tenTo q).isFinite = true := by decide +kernel
    exact h p hsmall
  by_cases hlast : p = 308
  · subst hlast; decide +kernel
  have hdigits := log2_shifted_lt (ten_pow_lt (show p ≤ 31 * 9 + 28 by omega))
  unfold tenTo Float.ofScientific
  rw [dif_neg (by omega)]
  show (Float.Model.pack (UnpackedFloat.ofScientific Format.binary64 1 (p : Int))).unpack.isFinite = true
  have hlow : ¬ ((p : Int) < -((2 ^ 11 : Int) + Nat.log2 1)) := by omega
  rw [UnpackedFloat.ofScientific, dif_neg (by decide), if_neg (by show ¬ (p : Int) > 2 ^ 11; omega), if_neg hlow,
    if_pos (Int.natCast_nonneg p)]
  show (Float.Model.pack (UnpackedFloat.roundWithAccuracy Format.binary64 .positive (1 <<< 53 * 10 ^ p) (-53 + 0)
    .exact)).unpack.isFinite = true
  exact isFinite_roundWithAccuracy (by decide) (by omega)

theorem isNaN_roundWithAccuracy (s : UnpackedFloat.Sign) (m : Nat) (e : Int) (acc : UnpackedFloat.Accuracy) :
    (UnpackedFloat.roundWithAccuracy Format.binary64 s m e acc).isNaN = false := by
  unfold UnpackedFloat.roundWithAccuracy
  dsimp only
  generalize UnpackedFloat.shiftToTargetExponent Format.binary64 _ _ .exact = final
  by_cases hzero : final.1.mantissa = 0
  · rw [dif_pos hzero]; rfl
  · rw [dif_neg hzero]; rfl

theorem isNaN_mul {u v : UnpackedFloat} (hu : u.isFinite = true) (hv : v.isFinite = true) :
    (UnpackedFloat.mul Format.binary64 u v).isNaN = false := by
  cases u with
  | notANumber => cases hu
  | infinity s => cases hu
  | zero s =>
    cases v with
    | notANumber => cases hv
    | infinity s' => cases hv
    | zero s' => rfl
    | finite s' m e hm => rfl
  | finite s m e hm =>
    cases v with
    | notANumber => cases hv
    | infinity s' => cases hv
    | zero s' => rfl
    | finite s' m' e' hm' => exact isNaN_roundWithAccuracy ..

theorem isFinite_of_not_special {u : UnpackedFloat} (hnan : u.isNaN = false) (hinf : u.isInf = false) :
    u.isFinite = true := by
  cases u with
  | notANumber => cases hnan
  | infinity s => cases hinf
  | zero s => rfl
  | finite s m e hm => rfl

theorem isFinite_mul {x y : Float} (hx : x.isFinite = true) (hy : y.isFinite = true) (h : (x * y).isInf = false) :
    (x * y).isFinite = true :=
  isFinite_of_not_special (isNaN_pack (isNaN_mul hx hy)) h

theorem isFinite_scale {x y : Float} (hx : x.isFinite = true) {n : Nat} (h : scale x n = some y) :
    y.isFinite = true := by
  rw [scale] at h
  split at h
  · rename_i hn
    dsimp only at h
    rw [if_pos (Int.natCast_nonneg n)] at h
    split at h
    · cases h
    · rename_i hinf
      cases h
      exact isFinite_mul hx (isFinite_tenTo hn) (Bool.eq_false_iff.mpr hinf)
  · split at h
    · cases h; exact hx
    · rw [if_pos (Int.natCast_nonneg n)] at h; cases h

end DocStore.Json
