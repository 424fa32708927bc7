import Mathlib.Algebra.Group.Nat.Defs
import Mathlib.Logic.Basic
import Mathlib.Tactic.SplitIfs

/-!
# Whole numbers rounded to 53 digits

A double holds the 53 leading binary digits of a whole number, rounded to the nearest and to the even one of two. Shifting
a mantissa digit by digit with two residual digits comes to that (`roundedMantissa_shiftRight`), and rounding never changes
the order of two numbers (`roundWhole_mono`).
-/

namespace DocStore.Double

open Float.Model (UnpackedFloat)

/-- The number without its `k` last digits, rounded to the nearest, and to the even one of two. -/
def halfEven (m k : Nat) : Nat :=
  if 2 * (m % 2 ^ k) < 2 ^ k then m / 2 ^ k
  else if 2 * (m % 2 ^ k) = 2 ^ k then m / 2 ^ k + m / 2 ^ k % 2
  else m / 2 ^ k + 1

section
variable {m a b k : Nat}

theorem halfEven_zero (m : Nat) : halfEven m 0 = m := by
  simp [halfEven, Nat.mod_one]

theorem le_halfEven (m k : Nat) : m / 2 ^ k ≤ halfEven m k := by
  unfold halfEven
  split
  · exact Nat.le_refl _
  split <;> omega

theorem halfEven_le (m k : Nat) : halfEven m k ≤ m / 2 ^ k + 1 := by
  unfold halfEven
  split
  · omega
  split <;> omega

theorem halfEven_mono (h : a ≤ b) : halfEven a k ≤ halfEven b k := by
  rcases Nat.lt_or_eq_of_le (Nat.div_le_div_right (c := 2 ^ k) h) with hlt | heq
  · exact Nat.le_trans (halfEven_le a k) (Nat.le_trans hlt (le_halfEven b k))
  · -- with the same leading digits the order is that of the last ones
    have hlast : a % 2 ^ k ≤ b % 2 ^ k := by
      have ha := Nat.div_add_mod a (2 ^ k)
      have hb := Nat.div_add_mod b (2 ^ k)
      rw [heq] at ha
      omega
    unfold halfEven
    rw [heq]
    split_ifs <;> omega

theorem halfEven_mul (m k b : Nat) : halfEven (m * 2 ^ b) (k + b) = halfEven m k := by
  have hpos : 0 < 2 ^ b := Nat.two_pow_pos b
  have hdiv : m * 2 ^ b / 2 ^ (k + b) = m / 2 ^ k := by
    rw [Nat.pow_add, Nat.mul_div_mul_right _ _ hpos]
  have hmod : m * 2 ^ b % 2 ^ (k + b) = m % 2 ^ k * 2 ^ b := by
    rw [Nat.pow_add, Nat.mul_mod_mul_right]
  have hlt : 2 * (m % 2 ^ k * 2 ^ b) < 2 ^ (k + b) ↔ 2 * (m % 2 ^ k) < 2 ^ k := by
    rw [Nat.pow_add, ← Nat.mul_assoc, Nat.mul_lt_mul_right hpos]
  have heq : 2 * (m % 2 ^ k * 2 ^ b) = 2 ^ (k + b) ↔ 2 * (m % 2 ^ k) = 2 ^ k := by
    rw [Nat.pow_add, ← Nat.mul_assoc, Nat.mul_left_inj (Nat.ne_of_gt hpos)]
  simp only [halfEven, hdiv, hmod, hlt, heq]

/-! ## Shifting -/

theorem mantissa_shiftRight (em : UnpackedFloat.ExtendedMantissa) (k : Nat) :
    (em >>> k).mantissa = em.mantissa / 2 ^ k := by
  induction k with
  | zero => exact (Nat.div_one _).symm
  | succ k ih =>
    rw [Nat.pow_succ, ← Nat.div_div_eq_div_mul, ← ih]; rfl

/-- The first digit dropped, and whether there are more behind it. -/
theorem residue_shiftRight (m k : Nat) :
    ((UnpackedFloat.ExtendedMantissa.ofMantissaAndAccuracy m .exact >>> k).roundBit = true ↔ 2 ^ k ≤ 2 * (m % 2 ^ k)) ∧
    ((UnpackedFloat.ExtendedMantissa.ofMantissaAndAccuracy m .exact >>> k).stickyBit = true ↔
      2 * (m % 2 ^ k) ≠ 0 ∧ 2 * (m % 2 ^ k) ≠ 2 ^ k) := by
  induction k with
  | zero =>
    have hzero : UnpackedFloat.ExtendedMantissa.ofMantissaAndAccuracy m .exact >>> 0 = ⟨m, false, false⟩ := rfl
    simp [hzero, Nat.mod_one]
  | succ k ih =>
    obtain ⟨hround, hsticky⟩ := ih
    have hmantissa : (UnpackedFloat.ExtendedMantissa.ofMantissaAndAccuracy m .exact >>> k).mantissa = m / 2 ^ k :=
      mantissa_shiftRight _ k
    generalize hem : UnpackedFloat.ExtendedMantissa.ofMantissaAndAccuracy m .exact >>> k = em at *
    have hnext : UnpackedFloat.ExtendedMantissa.ofMantissaAndAccuracy m .exact >>> (k + 1) = em.shiftRightOne := by
      rw [← hem]; rfl
    have hmod : m % 2 ^ (k + 1) = m % 2 ^ k + 2 ^ k * (m / 2 ^ k % 2) := Nat.mod_pow_succ
    have hlast : m % 2 ^ k < 2 ^ k := Nat.mod_lt _ (Nat.two_pow_pos k)
    have hpow : 2 ^ (k + 1) = 2 * 2 ^ k := Nat.pow_succ'
    rw [hnext, hmod, hpow]
    generalize 2 ^ k = p at *
    generalize m % p = r at *
    simp only [UnpackedFloat.ExtendedMantissa.shiftRightOne, Bool.or_eq_true, bne_iff_ne, hmantissa, hround, hsticky]
    rcases Nat.mod_two_eq_zero_or_one (m / p) with hbit | hbit
    · rw [hbit]
      constructor <;> omega
    · rw [hbit]
      constructor <;> omega

theorem roundedMantissa_shiftRight (m k : Nat) :
    (UnpackedFloat.ExtendedMantissa.ofMantissaAndAccuracy m .exact >>> k).roundedMantissa = halfEven m k := by
  have hmantissa : (UnpackedFloat.ExtendedMantissa.ofMantissaAndAccuracy m .exact >>> k).mantissa = m / 2 ^ k :=
    mantissa_shiftRight _ k
  obtain ⟨hround, hsticky⟩ := residue_shiftRight m k
  generalize UnpackedFloat.ExtendedMantissa.ofMantissaAndAccuracy m .exact >>> k = em at *
  obtain ⟨mantissa, round, sticky⟩ := em
  obtain rfl : mantissa = m / 2 ^ k := hmantissa
  unfold halfEven
  cases round <;> cases sticky <;> simp only [Bool.false_eq_true, false_iff, true_iff, not_and_or, not_not] at hround hsticky
  · change m / 2 ^ k = _
    split_ifs <;> omega
  · change m / 2 ^ k = _
    split_ifs <;> omega
  · change m / 2 ^ k + m / 2 ^ k % 2 = _
    split_ifs <;> omega
  · change m / 2 ^ k + 1 = _
    split_ifs <;> omega

/-! ## Leading digits -/

theorem log2_lt_of_lt {m k : Nat} (hk : 0 < k) (h : m < 2 ^ k) : m.log2 < k := by
  rcases Nat.eq_zero_or_pos m with rfl | hm
  · exact hk
  · exact (Nat.log2_lt (Nat.ne_of_gt hm)).mpr h

/-- The digits before the last `k` are 53, unless all of them are carried over. -/
theorem halfEven_leading (hm : m ≠ 0) (hlog : m.log2 = 52 + k) : 2 ^ 52 ≤ halfEven m k ∧ halfEven m k ≤ 2 ^ 53 := by
  have hpos : 0 < 2 ^ k := Nat.two_pow_pos k
  have hlow : 2 ^ 52 * 2 ^ k ≤ m := by
    rw [← Nat.pow_add, ← hlog]
    exact Nat.log2_self_le hm
  have hhigh : m < 2 ^ 53 * 2 ^ k := by
    have hnext : 53 + k = m.log2 + 1 := by omega
    rw [← Nat.pow_add, hnext]
    exact Nat.lt_log2_self
  exact ⟨Nat.le_trans ((Nat.le_div_iff_mul_le hpos).mpr hlow) (le_halfEven m k),
    Nat.le_trans (halfEven_le m k) ((Nat.div_lt_iff_lt_mul hpos).mpr hhigh)⟩

def roundWhole (n : Nat) : Nat :=
  halfEven n (n.log2 - 52) * 2 ^ (n.log2 - 52)

theorem roundWhole_of_lt (h : m < 2 ^ 53) : roundWhole m = m := by
  have hlog : m.log2 - 52 = 0 := Nat.sub_eq_zero_of_le (Nat.le_of_lt_succ (log2_lt_of_lt (by decide) h))
  rw [roundWhole, hlog, halfEven_zero, Nat.pow_zero, Nat.mul_one]

/-- Rounding stays between two powers of two. -/
theorem roundWhole_bounds (h : m ≠ 0) : 2 ^ m.log2 ≤ roundWhole m ∧ roundWhole m ≤ 2 ^ (m.log2 + 1) := by
  rcases Nat.lt_or_ge m.log2 52 with hsmall | hlarge
  · have hexact : roundWhole m = m :=
      roundWhole_of_lt (Nat.lt_of_lt_of_le Nat.lt_log2_self (Nat.pow_le_pow_right (by decide) (by omega)))
    rw [hexact]
    exact ⟨Nat.log2_self_le h, Nat.le_of_lt Nat.lt_log2_self⟩
  · obtain ⟨k, hk⟩ : ∃ k, m.log2 = 52 + k := ⟨m.log2 - 52, by omega⟩
    have hk' : m.log2 - 52 = k := by omega
    have hnext : m.log2 + 1 = 53 + k := by omega
    obtain ⟨hfirst, hlast⟩ := halfEven_leading h hk
    rw [roundWhole, hk', hnext, hk, Nat.pow_add, Nat.pow_add]
    exact ⟨Nat.mul_le_mul_right _ hfirst, Nat.mul_le_mul_right _ hlast⟩

theorem roundWhole_mono (h : a ≤ b) : roundWhole a ≤ roundWhole b := by
  rcases Nat.eq_zero_or_pos a with rfl | ha
  · exact Nat.zero_le _
  have ha0 : a ≠ 0 := Nat.ne_of_gt ha
  have hb0 : b ≠ 0 := by omega
  have hlog : a.log2 ≤ b.log2 := (Nat.le_log2 hb0).mpr (Nat.le_trans (Nat.log2_self_le ha0) h)
  rcases Nat.lt_or_eq_of_le hlog with hlt | heq
  · -- a power of two is between them
    calc roundWhole a ≤ 2 ^ (a.log2 + 1) := (roundWhole_bounds ha0).2
      _ ≤ 2 ^ b.log2 := Nat.pow_le_pow_right (by decide) hlt
      _ ≤ roundWhole b := (roundWhole_bounds hb0).1
  · rw [roundWhole, roundWhole, heq]
    exact Nat.mul_le_mul_right _ (halfEven_mono h)

theorem log2_mul_two_pow (h : m ≠ 0) (k : Nat) : (m * 2 ^ k).log2 = m.log2 + k := by
  have hpos : 0 < 2 ^ k := Nat.two_pow_pos k
  rw [Nat.log2_eq_iff (Nat.mul_ne_zero h (Nat.ne_of_gt hpos)), Nat.add_right_comm, Nat.pow_add, Nat.pow_add]
  exact ⟨Nat.mul_le_mul_right _ (Nat.log2_self_le h), Nat.mul_lt_mul_of_pos_right Nat.lt_log2_self hpos⟩

/-- Zeros at the end do not matter. -/
theorem halfEven_mul_two_pow (hk : 52 ≤ m.log2 + k) :
    halfEven (m * 2 ^ k) (m.log2 + k - 52) * 2 ^ (m.log2 + k - 52) = roundWhole m * 2 ^ k := by
  rcases Nat.lt_or_ge m.log2 52 with hsmall | hlarge
  · -- the zeros make up for the digits that are missing
    obtain ⟨c, d, hc, hd⟩ : ∃ c d, m.log2 + c = 52 ∧ k = c + d := ⟨52 - m.log2, k - (52 - m.log2), by omega, by omega⟩
    have hexact : roundWhole m = m :=
      roundWhole_of_lt (Nat.lt_of_lt_of_le Nat.lt_log2_self (Nat.pow_le_pow_right (by decide) (by omega)))
    have hdropped : m.log2 + k - 52 = 0 + d := by omega
    rw [hexact, hdropped, hd, Nat.pow_add, ← Nat.mul_assoc, halfEven_mul, halfEven_zero, Nat.zero_add]
  · have hdropped : m.log2 + k - 52 = m.log2 - 52 + k := by omega
    rw [hdropped, halfEven_mul, roundWhole, Nat.pow_add, Nat.mul_assoc]

end

/-! ## Signs -/

def roundInt (i : Int) : Int :=
  if i < 0 then -(roundWhole i.natAbs : Int) else roundWhole i.natAbs

theorem roundInt_neg (i : Int) : roundInt (-i) = -roundInt i := by
  unfold roundInt
  rw [Int.natAbs_neg]
  rcases Int.lt_trichotomy i 0 with h | rfl | h
  · rw [if_neg (by omega), if_pos h, Int.neg_neg]
  · rfl
  · rw [if_pos (by omega), if_neg (by omega)]

theorem roundInt_mono {i j : Int} (h : i ≤ j) : roundInt i ≤ roundInt j := by
  unfold roundInt
  split
  · split
    · have hmono := roundWhole_mono (show j.natAbs ≤ i.natAbs by omega)
      omega
    · omega
  · rw [if_neg (by omega)]
    have hmono := roundWhole_mono (show i.natAbs ≤ j.natAbs by omega)
    omega

end DocStore.Double
