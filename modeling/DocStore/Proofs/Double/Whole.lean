import DocStore.Decimal.Reading
import DocStore.Proofs.Decimal.Places
import DocStore.Proofs.Double.Rounding
import DocStore.Value.Basic
import Mathlib.Data.Int.Order.Basic
import Mathlib.Data.Nat.Basic

/-!
# Whole numbers as doubles

A double that stands for a whole number is packed with 53 digits of it, or is infinite where it is too big (`IsWhole`). The
conversion of an integer and the reading of a long numeral both give the double of the rounded number, and such doubles are
in the order of what they stand for.
-/

namespace DocStore.Double

open Float.Model (Format UnpackedFloat)
open Float.Model.UnpackedFloat (Sign)

/-- The double stands for the whole number, or is infinite and the number has more than 256 binary digits. -/
inductive IsWhole : Int → UnpackedFloat → Prop where
  | zero (s : Sign) : IsWhole 0 (.zero s)
  | finite (s : Sign) {v m a : Nat} (hm : 0 < m) (hlow : 2 ^ 52 ≤ m) (hhigh : m < 2 ^ 53) (h : v * 2 ^ 52 = m * 2 ^ a) :
      IsWhole (s.apply v) (.finite s m (a - 52) hm)
  | infinity (s : Sign) {v : Nat} (h : 2 ^ 256 ≤ v) : IsWhole (s.apply v) (.infinity s)

/-! ## Packing -/

theorem log2_of_bounds {m : Nat} (hlow : 2 ^ 52 ≤ m) (hhigh : m < 2 ^ 53) : m.log2 = 52 :=
  (Nat.log2_eq_iff (by omega)).mpr ⟨hlow, hhigh⟩

section
variable (s : Sign) {m a : Nat} {hm : 0 < m}

theorem unpack_pack_of_large (ha : 1024 ≤ a) :
    UnpackedFloat.unpack Format.binary64 (UnpackedFloat.pack Format.binary64 (.finite s m (a - 52) hm)) = .infinity s := by
  have hpacked : UnpackedFloat.pack Format.binary64 (.finite s m (a - 52) hm) =
      UnpackedFloat.packedInfinity Format.binary64 s := by
    refine if_pos ?_
    change 2 ^ 11 ≤ ((a : Int) - 52 + (1023 : Nat) + (52 : Nat)).toNat + 1
    omega
  rw [hpacked]
  cases s <;> rfl

section
variable (e : BitVec 11) (w : BitVec 52)

/-- The sign is the bit above the exponent. -/
theorem ofBitVec_unpackSign :
    Sign.ofBitVec (UnpackedFloat.unpackSign (UnpackedFloat.packComponents Format.binary64 s e w)) = s := by
  have htop : (s.toBitVec ++ e ++ w).getLsbD 63 = s.toBitVec[0] := by
    rw [BitVec.getLsbD_append, if_neg (by decide), BitVec.getLsbD_append, if_neg (by decide)]
    rfl
  have hsign : UnpackedFloat.unpackSign (UnpackedFloat.packComponents Format.binary64 s e w) = s.toBitVec := by
    refine BitVec.eq_of_getElem_eq fun i hi => ?_
    obtain rfl : i = 0 := by omega
    change ((BitVec.extractLsb 63 63 (s.toBitVec ++ e ++ w)).cast _)[0] = _
    rw [BitVec.getElem_cast, BitVec.extractLsb, BitVec.getElem_extractLsb']
    exact htop
  rw [hsign]
  cases s <;> rfl

/-- Neither the greatest exponent nor the least one: the mantissa counts with a leading one. -/
theorem unpack_packComponents (hinfinite : e ≠ -1#11) (hnormal : e ≠ 0#11) (hpos : 0 < (1#1 ++ w).toNat) :
    UnpackedFloat.unpack Format.binary64 (UnpackedFloat.packComponents Format.binary64 s e w) =
      .finite s (1#1 ++ w).toNat (e.toNat - (1023 + 52)) hpos := by
  have hexponent : UnpackedFloat.unpackExponent (UnpackedFloat.packComponents Format.binary64 s e w) = e :=
    UnpackedFloat.unpackExponent_packComponents
  have hmantissa : UnpackedFloat.unpackMantissa (UnpackedFloat.packComponents Format.binary64 s e w) = w :=
    UnpackedFloat.unpackMantissa_packComponents
  have hbias : Format.binary64.exponentBias = 1023 := rfl
  rw [← hexponent] at hinfinite hnormal
  refine (if_neg hinfinite).trans ((if_neg hnormal).trans ?_)
  rw [UnpackedFloat.finite.injEq]
  refine ⟨ofBitVec_unpackSign s e w, by rw [hmantissa], ?_⟩
  rw [hexponent, hbias]
  rfl

end

theorem unpack_pack_of_small (hlow : 2 ^ 52 ≤ m) (hhigh : m < 2 ^ 53) (ha : a < 1024) :
    UnpackedFloat.unpack Format.binary64 (UnpackedFloat.pack Format.binary64 (.finite s m (a - 52) hm)) =
      .finite s m (a - 52) hm := by
  have hexponent : ((a : Int) - 52 + (1023 : Nat) + (52 : Nat)).toNat = a + 1023 := by omega
  have hpacked : UnpackedFloat.pack Format.binary64 (.finite s m (a - 52) hm) =
      UnpackedFloat.packComponents Format.binary64 s (BitVec.ofNat 11 (a + 1023)) (BitVec.ofNat 52 m) := by
    rw [← hexponent]
    refine (if_neg ?_).trans (if_pos ?_)
    · change ¬ 2 ^ 11 ≤ ((a : Int) - 52 + (1023 : Nat) + (52 : Nat)).toNat + 1
      omega
    · change m.log2 + 1 = 53
      rw [log2_of_bounds hlow hhigh]
  have hinfinite : BitVec.ofNat 11 (a + 1023) ≠ -1#11 := by
    intro h
    have := congrArg BitVec.toNat h
    simp at this
    omega
  have hnormal : BitVec.ofNat 11 (a + 1023) ≠ 0#11 := by
    intro h
    have := congrArg BitVec.toNat h
    simp at this
    omega
  have hmantissa : (1#1 ++ BitVec.ofNat 52 m).toNat = m := by
    rw [BitVec.toNat_append, ← Nat.shiftLeft_add_eq_or_of_lt (BitVec.isLt _), Nat.shiftLeft_eq, BitVec.toNat_ofNat]
    simp
    omega
  rw [hpacked, unpack_packComponents s _ _ hinfinite hnormal (by omega), UnpackedFloat.finite.injEq]
  refine ⟨rfl, hmantissa, ?_⟩
  rw [BitVec.toNat_ofNat]
  omega

end

theorem IsWhole.pack {v : Int} {u : UnpackedFloat} (h : IsWhole v u) : IsWhole v (Float.Model.pack u).unpack := by
  have hbits : (Float.Model.pack u).toBits.toBitVec = UnpackedFloat.pack Format.binary64 u := rfl
  rw [Float.Model.unpack, hbits]
  cases h with
  | zero s => cases s <;> exact .zero _
  | infinity s hv => cases s <;> exact .infinity _ hv
  | @finite s v m a hm hlow hhigh hv =>
    rcases Nat.lt_or_ge a 1024 with ha | ha
    · rw [unpack_pack_of_small s hlow hhigh ha]
      exact .finite s hm hlow hhigh hv
    · rw [unpack_pack_of_large s ha]
      have hsize : 2 ^ 52 * 2 ^ a ≤ 2 ^ 52 * v := by
        rw [Nat.mul_comm _ v, hv]
        exact Nat.mul_le_mul_right _ hlow
      refine .infinity s ?_
      calc 2 ^ 256 ≤ 2 ^ a := Nat.pow_le_pow_right (by decide) (by omega)
        _ ≤ v := Nat.le_of_mul_le_mul_left hsize (by decide)

theorem IsWhole.neg {v : Int} {u : UnpackedFloat} (h : IsWhole v u) : IsWhole (-v) u.neg := by
  have happly : ∀ (s : Sign) (n : Nat), -s.apply n = (-s).apply n := by
    intro s n
    cases s with
    | negative => exact Int.neg_neg _
    | positive => rfl
  cases h with
  | zero s => exact .zero _
  | finite s hm hlow hhigh hv =>
    rw [happly]
    exact .finite _ hm hlow hhigh hv
  | infinity s hv =>
    rw [happly]
    exact .infinity _ hv

/-! ## Rounding -/

section
variable {m k : Nat} {e : Int}

theorem shiftToTargetExponent_eq (hm : 52 ≤ m.log2) (he : -1074 ≤ e) :
    UnpackedFloat.shiftToTargetExponent Format.binary64 m e .exact =
      (UnpackedFloat.ExtendedMantissa.ofMantissaAndAccuracy m .exact >>> (m.log2 - 52), e + (m.log2 - 52 : Nat)) := by
  have hmin : Format.binary64.minExponent = -1074 := rfl
  have hbits : Format.binary64.mantissaBits = 53 := rfl
  have hshift : (max ((m.log2 : Int) + 1 + e - (53 : Nat)) (-1074) - e).toNat = m.log2 - 52 := by omega
  simp only [UnpackedFloat.shiftToTargetExponent, UnpackedFloat.shiftToExponent, Format.targetExponent, hmin, hbits,
    Float.Model.totalExponent, hshift]

/-- The second shift takes back a digit that was carried over. -/
theorem roundWithAccuracy_eq (s : Sign) (hm : m ≠ 0) (hlog : m.log2 = 52 + k) (he : -1074 ≤ e) :
    UnpackedFloat.roundWithAccuracy Format.binary64 s m e .exact =
      let r := halfEven m k
      if h : r / 2 ^ (r.log2 - 52) = 0 then .zero s
      else .finite s (r / 2 ^ (r.log2 - 52)) (e + k + (r.log2 - 52 : Nat)) (Nat.pos_of_ne_zero h) := by
  have hk : m.log2 - 52 = k := by omega
  have hfirst := shiftToTargetExponent_eq (m := m) (by omega) he
  have hround := roundedMantissa_shiftRight m k
  rw [hk] at hfirst
  obtain ⟨hlow, -⟩ := halfEven_leading hm hlog
  generalize halfEven m k = r at hround hlow
  have hrlog : 52 ≤ r.log2 := (Nat.le_log2 (by omega)).mpr hlow
  have hsecond := shiftToTargetExponent_eq (e := e + k) hrlog (by omega)
  have hmantissa : (UnpackedFloat.ExtendedMantissa.ofMantissaAndAccuracy r .exact >>> (r.log2 - 52)).mantissa =
      r / 2 ^ (r.log2 - 52) := mantissa_shiftRight _ _
  rw [UnpackedFloat.roundWithAccuracy, hfirst]
  dsimp only
  rw [hround, hsecond]
  dsimp only
  generalize UnpackedFloat.ExtendedMantissa.mantissa _ = shifted at hmantissa ⊢
  subst hmantissa
  rfl

theorem IsWhole.of_exponent (s : Sign) {v m a : Nat} {e : Int} {hm : 0 < m} (hlow : 2 ^ 52 ≤ m) (hhigh : m < 2 ^ 53)
    (h : v * 2 ^ 52 = m * 2 ^ a) (he : e = a - 52) : IsWhole (s.apply v) (.finite s m e hm) := by
  subst he
  exact .finite s hm hlow hhigh h

theorem isWhole_shifted (s : Sign) {r v a : Nat} (hlow : 2 ^ 52 ≤ r) (hhigh : r ≤ 2 ^ 53) (hv : v * 2 ^ 52 = r * 2 ^ a) :
    IsWhole (s.apply v)
      (if h : r / 2 ^ (r.log2 - 52) = 0 then .zero s
        else .finite s (r / 2 ^ (r.log2 - 52)) (a - 52 + (r.log2 - 52 : Nat)) (Nat.pos_of_ne_zero h)) := by
  rcases Nat.lt_or_eq_of_le hhigh with hlt | rfl
  · have hshift : r.log2 - 52 = 0 := by rw [log2_of_bounds hlow hlt]
    have hquotient : r / 2 ^ (r.log2 - 52) = r := by rw [hshift, Nat.pow_zero, Nat.div_one]
    rw [dif_neg (by omega)]
    rw [← hquotient] at hlow hlt hv
    exact .of_exponent s hlow hlt hv (by omega)
  · have hshift : (2 ^ 53).log2 - 52 = 1 := by rw [Nat.log2_two_pow]
    have hquotient : 2 ^ 53 / 2 ^ ((2 ^ 53).log2 - 52) = 2 ^ 52 := by
      rw [hshift]
      decide
    have hvalue : v * 2 ^ 52 = 2 ^ 53 / 2 ^ ((2 ^ 53).log2 - 52) * 2 ^ (a + 1) := by
      rw [hquotient, hv, Nat.pow_succ]
      omega
    rw [dif_neg (by omega)]
    exact .of_exponent s (by omega) (by omega) hvalue (by omega)

/-- With zeros behind the number so that it has 53 digits at least, rounding gives the rounded number. -/
theorem isWhole_roundWithAccuracy (s : Sign) (hm : m ≠ 0) (hk : 52 ≤ m.log2 + k) (hk' : k ≤ 1074) :
    IsWhole (s.apply (roundWhole m))
      (UnpackedFloat.roundWithAccuracy Format.binary64 s (m * 2 ^ k) (-k) .exact) := by
  have hne : m * 2 ^ k ≠ 0 := Nat.mul_ne_zero hm (Nat.ne_of_gt (Nat.two_pow_pos k))
  obtain ⟨d, hd⟩ : ∃ d, m.log2 + k = 52 + d := ⟨m.log2 + k - 52, by omega⟩
  obtain ⟨a, ha⟩ : ∃ a, d + 52 = a + k := ⟨d + 52 - k, by omega⟩
  have hlog : (m * 2 ^ k).log2 = 52 + d := (log2_mul_two_pow hm k).trans hd
  have hvalue : halfEven (m * 2 ^ k) d * 2 ^ d = roundWhole m * 2 ^ k := by
    have hd' : m.log2 + k - 52 = d := by omega
    rw [← halfEven_mul_two_pow hk, hd']
  have hdigits : roundWhole m * 2 ^ 52 = halfEven (m * 2 ^ k) d * 2 ^ a := by
    apply Nat.eq_of_mul_eq_mul_right (Nat.two_pow_pos k)
    calc roundWhole m * 2 ^ 52 * 2 ^ k = roundWhole m * 2 ^ k * 2 ^ 52 := Nat.mul_right_comm ..
      _ = halfEven (m * 2 ^ k) d * 2 ^ (d + 52) := by rw [← hvalue, Nat.mul_assoc, Nat.pow_add]
      _ = halfEven (m * 2 ^ k) d * 2 ^ a * 2 ^ k := by rw [ha, Nat.pow_add, Nat.mul_assoc]
  have hexponent : -(k : Int) + d = a - 52 := by omega
  obtain ⟨hlow, hhigh⟩ := halfEven_leading hne hlog
  rw [roundWithAccuracy_eq s hne hlog (by omega), hexponent]
  exact isWhole_shifted s hlow hhigh hdigits

end

/-! ## Order -/

theorem compare_swap (x y : UnpackedFloat) : y.compare x = (x.compare y).map Ordering.swap := by
  have hdigits : ∀ (d e : Int) (m n : Nat), (compare e d).then (compare n m) = ((compare d e).then (compare m n)).swap := by
    intro d e m n
    have he : compare e d = (compare d e).swap := Std.OrientedCmp.eq_swap
    have hn : compare n m = (compare m n).swap := Std.OrientedCmp.eq_swap
    rw [Ordering.swap_then, he, hn]
  cases x with
  | notANumber => cases y <;> rfl
  | infinity s =>
    cases y with
    | notANumber => cases s <;> rfl
    | infinity t | zero t | finite t => cases s <;> cases t <;> rfl
  | zero s =>
    cases y with
    | notANumber => rfl
    | infinity t | zero t | finite t => cases t <;> rfl
  | finite s m d hm =>
    cases y with
    | notANumber => cases s <;> rfl
    | infinity t => cases s <;> cases t <;> rfl
    | zero t => cases s <;> rfl
    | finite t n e hn =>
      cases s <;> cases t
      · exact congrArg some (congrArg Ordering.swap (hdigits d e m n))
      · rfl
      · rfl
      · exact congrArg some (hdigits d e m n)

section
variable {v w m n a b : Nat}

theorem lt_of_exponent (hm : m < 2 ^ 53) (hv : v * 2 ^ 52 = m * 2 ^ a) (hn : 2 ^ 52 ≤ n) (hw : w * 2 ^ 52 = n * 2 ^ b)
    (h : a < b) : v < w := by
  have hsize : v * 2 ^ 52 < w * 2 ^ 52 :=
    calc v * 2 ^ 52 = m * 2 ^ a := hv
      _ < 2 ^ 53 * 2 ^ a := Nat.mul_lt_mul_of_pos_right hm (Nat.two_pow_pos a)
      _ = 2 ^ 52 * 2 ^ (a + 1) := by rw [Nat.pow_succ 2 a]; omega
      _ ≤ n * 2 ^ b := Nat.mul_le_mul hn (Nat.pow_le_pow_right (by decide) h)
      _ = w * 2 ^ 52 := hw.symm
  omega

/-- Numbers of 53 digits are in the order of their exponents first. -/
theorem compare_digits (hm : 2 ^ 52 ≤ m) (hm' : m < 2 ^ 53) (hv : v * 2 ^ 52 = m * 2 ^ a) (hn : 2 ^ 52 ≤ n)
    (hn' : n < 2 ^ 53) (hw : w * 2 ^ 52 = n * 2 ^ b) :
    (compare ((a : Int) - 52) (b - 52)).then (compare m n) = compare (v : Int) w := by
  rcases Nat.lt_trichotomy a b with h | rfl | h
  · have hlt := lt_of_exponent hm' hv hn hw h
    have hexponent : compare ((a : Int) - 52) (b - 52) = .lt := compare_lt_iff_lt.mpr (by omega)
    rw [hexponent, compare_lt_iff_lt.mpr (Int.ofNat_lt.mpr hlt)]
    rfl
  · have hpos : 0 < 2 ^ a := Nat.two_pow_pos a
    rw [compare_eq_iff_eq.mpr rfl]
    change compare m n = _
    rcases Nat.lt_trichotomy m n with h | rfl | h
    · have hlt : v * 2 ^ 52 < w * 2 ^ 52 := by
        rw [hv, hw]
        exact Nat.mul_lt_mul_of_pos_right h hpos
      rw [compare_lt_iff_lt.mpr h, compare_lt_iff_lt.mpr (by omega)]
    · rw [compare_eq_iff_eq.mpr rfl, compare_eq_iff_eq.mpr (by omega)]
    · have hlt : w * 2 ^ 52 < v * 2 ^ 52 := by
        rw [hv, hw]
        exact Nat.mul_lt_mul_of_pos_right h hpos
      rw [compare_gt_iff_gt.mpr h, compare_gt_iff_gt.mpr (by omega)]
  · have hlt := lt_of_exponent hn' hw hm hv h
    have hexponent : compare ((a : Int) - 52) (b - 52) = .gt := compare_gt_iff_gt.mpr (by omega)
    rw [hexponent, compare_gt_iff_gt.mpr (Int.ofNat_lt.mpr hlt)]
    rfl

theorem pos_of_digits (hm : 0 < m) (hv : v * 2 ^ 52 = m * 2 ^ a) : 0 < v := by
  have := Nat.mul_pos hm (Nat.two_pow_pos a)
  omega

end

theorem compare_neg_neg (v w : Int) : compare (-v) (-w) = (compare v w).swap := by
  rcases Int.lt_trichotomy v w with h | rfl | h
  · rw [compare_lt_iff_lt.mpr h, compare_gt_iff_gt.mpr (Int.neg_lt_neg h)]
    rfl
  · simp
  · rw [compare_gt_iff_gt.mpr h, compare_lt_iff_lt.mpr (Int.neg_lt_neg h)]
    rfl

theorem natAbs_apply (s : Sign) (v : Nat) : (s.apply v).natAbs = v := by
  cases s with
  | negative => exact Int.natAbs_neg _
  | positive => rfl

/-- Doubles are in the order of the whole numbers that they stand for. -/
theorem compare_of_isWhole {v w : Int} {x y : UnpackedFloat} (hx : IsWhole v x) (hv : v.natAbs < 2 ^ 256) (hy : IsWhole w y) :
    x.compare y = some (compare v w) := by
  have hlt : v < w → compare v w = .lt := compare_lt_iff_lt.mpr
  have hgt : w < v → compare v w = .gt := compare_gt_iff_gt.mpr
  cases hx with
  | zero s =>
    cases hy with
    | zero t => rfl
    | finite t hn _ _ hw =>
      have hpos := pos_of_digits hn hw
      cases t with
      | negative => exact congrArg some (hgt (by simpa [Sign.apply])).symm
      | positive => exact congrArg some (hlt (by simpa [Sign.apply])).symm
    | infinity t hw =>
      cases t with
      | negative => exact congrArg some (hgt (by simp only [Sign.apply]; omega)).symm
      | positive => exact congrArg some (hlt (by simp only [Sign.apply]; omega)).symm
  | infinity s hsize =>
    rw [natAbs_apply] at hv
    omega
  | finite s hm hlow hhigh hdigits =>
    rw [natAbs_apply] at hv
    have hpos := pos_of_digits hm hdigits
    cases hy with
    | zero t =>
      cases s with
      | negative => exact congrArg some (hlt (by simpa [Sign.apply])).symm
      | positive => exact congrArg some (hgt (by simpa [Sign.apply])).symm
    | infinity t hw =>
      cases t with
      | negative => exact congrArg some (hgt (by cases s <;> simp only [Sign.apply] <;> omega)).symm
      | positive => exact congrArg some (hlt (by cases s <;> simp only [Sign.apply] <;> omega)).symm
    | finite t hn hlow' hhigh' hdigits' =>
      have hpos' := pos_of_digits hn hdigits'
      have hcompare := compare_digits hlow hhigh hdigits hlow' hhigh' hdigits'
      cases s with
      | negative =>
        cases t with
        | negative => exact congrArg some ((congrArg Ordering.swap hcompare).trans (compare_neg_neg _ _).symm)
        | positive => exact congrArg some (hlt (by simp only [Sign.apply]; omega)).symm
      | positive =>
        cases t with
        | negative => exact congrArg some (hgt (by simp only [Sign.apply]; omega)).symm
        | positive => exact congrArg some hcompare

/-! ## Doubles -/

theorem isWhole_neg {v : Int} {x : Float} (h : IsWhole v x.toModel.unpack) : IsWhole (-v) (-x).toModel.unpack :=
  h.neg.pack

theorem isWhole_toFloat (n : UInt64) : IsWhole (roundWhole n.toNat) n.toFloat.toModel.unpack := by
  have hsize : n.toNat < 2 ^ 64 := n.toNat_lt
  show IsWhole _ (Float.Model.pack (UnpackedFloat.normalize Format.binary64 (n.toNat : Int) 0 .positive)).unpack
  apply IsWhole.pack
  unfold UnpackedFloat.normalize
  split
  · rename_i h
    have := compare_lt_iff_lt.mp h
    omega
  · rename_i h
    have hzero : n.toNat = 0 := by
      have := compare_eq_iff_eq.mp h
      omega
    rw [hzero]
    exact .zero _
  · rename_i h
    have hpos := compare_gt_iff_gt.mp h
    have hlog : n.toNat.log2 < 64 := (Nat.log2_lt (by omega)).mpr hsize
    have hmin : Format.binary64.minExponent = -1074 := rfl
    have hbits : Format.binary64.mantissaBits = 53 := rfl
    have hshift : (0 - max ((n.toNat.log2 : Int) + 1 + 0 - (53 : Nat)) (-1074)).toNat = 52 - n.toNat.log2 := by omega
    have hrounded := isWhole_roundWithAccuracy .positive (m := n.toNat) (k := 52 - n.toNat.log2) (by omega) (by omega)
      (by omega)
    simp only [UnpackedFloat.round, UnpackedFloat.decreaseExponent, Format.targetExponent, hmin, hbits,
      Float.Model.totalExponent, Int.toNat_natCast, hshift, Nat.shiftLeft_eq]
    rw [Int.zero_sub]
    exact hrounded

theorem isWhole_nearestDouble (n : Int64) : IsWhole (roundInt n.toInt) (Value.nearestDouble n).toModel.unpack := by
  have hlow := n.le_toInt
  have hhigh := n.toInt_lt
  have hsize : n.toInt.natAbs.toUInt64.toNat = n.toInt.natAbs := UInt64.toNat_ofNat_of_lt (by simp only [UInt64.size]; omega)
  have hwhole := isWhole_toFloat n.toInt.natAbs.toUInt64
  rw [hsize] at hwhole
  unfold Value.nearestDouble roundInt
  dsimp only
  split
  · exact isWhole_neg hwhole
  · exact hwhole

theorem isWhole_nearest {n : Nat} (h : 2 ^ 53 ≤ n) : IsWhole (roundWhole n) (Decimal.nearest n 0).toModel.unpack := by
  have hpos : n ≠ 0 := by omega
  unfold Decimal.nearest
  rw [if_neg hpos]
  dsimp only
  split
  · rename_i hpower
    have hinfinite : Decimal.infinity.toModel = Float.Model.pack (.infinity .positive) := by decide +kernel
    have hlength : 10 ^ 256 ≤ n := Decimal.pow_le_of_lt_length hpos (by omega)
    have hlog : 256 ≤ n.log2 := (Nat.le_log2 hpos).mpr (Nat.le_trans (Nat.pow_le_pow_left (by decide) 256) hlength)
    have hsize : 2 ^ 256 ≤ roundWhole n :=
      Nat.le_trans (Nat.pow_le_pow_right (by decide) hlog) (roundWhole_bounds hpos).1
    rw [hinfinite]
    exact IsWhole.pack (.infinity .positive hsize)
  · rw [if_neg (by omega), if_pos (Int.le_refl 0)]
    have hshifted : n * Nat.pow 10 (0 : Int).toNat = n := Nat.mul_one n
    rw [hshifted]
    unfold Float.ofScientific
    rw [dif_neg (by omega)]
    show IsWhole _ (Float.Model.pack (UnpackedFloat.ofScientific Format.binary64 n 0)).unpack
    apply IsWhole.pack
    have hlow : ¬ (0 : Int) < -((2 ^ 11 : Int) + n.log2) := by omega
    rw [UnpackedFloat.ofScientific, dif_neg hpos, if_neg (by decide), if_neg hlow, if_pos (Int.le_refl 0)]
    have hrounded := isWhole_roundWithAccuracy .positive (k := 53) hpos (by omega) (by decide)
    have hmantissa : n <<< Format.binary64.mantissaBits * 10 ^ (0 : Int).toNat = n * 2 ^ 53 := by
      rw [Nat.shiftLeft_eq]
      exact Nat.mul_one _
    unfold UnpackedFloat.mul
    dsimp only
    rw [hmantissa]
    exact hrounded

end DocStore.Double
