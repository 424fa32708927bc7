import DocStore.Proofs.Double.Whole
import DocStore.Proofs.Query.Literals
import DocStore.Proofs.Query.Outcome
import DocStore.Proofs.Query.Single
import Mathlib.Algebra.Group.Int.Defs

/-!
# Integers against numerals

A numeral of 64 bits denotes its integer and is compared exactly. A longer one denotes the nearest double, and then the
stored integer is rounded to a double, too (`compareNumbers?_beyond`). That changes the order only close to the ends of the
64 bits, where both are rounded to the same power of two (`integers_compare`).
-/

namespace DocStore.Query

open Double (IsWhole roundInt roundInt_mono roundInt_neg)
open Float.Model (UnpackedFloat)

/-! ## Rounding at the ends -/

section
variable {n m : Int}

theorem compare_roundInt_above (hn : n ≤ 2 ^ 63) (hm : 2 ^ 63 ≤ m) :
    compare (roundInt n) (roundInt m) = if 2 ^ 63 - 512 ≤ n ∧ m ≤ 2 ^ 63 + 1024 then .eq else .lt := by
  have hpower : roundInt (2 ^ 63) = 2 ^ 63 := by decide +kernel
  have hn' := roundInt_mono hn
  have hm' := roundInt_mono hm
  rw [hpower] at hn' hm'
  split
  · rename_i hclose
    have hlow := roundInt_mono hclose.1
    have hhigh := roundInt_mono hclose.2
    have hup : roundInt (2 ^ 63 - 512) = 2 ^ 63 := by decide +kernel
    have hdown : roundInt (2 ^ 63 + 1024) = 2 ^ 63 := by decide +kernel
    exact compare_eq_iff_eq.mpr (by omega)
  · rename_i hapart
    refine compare_lt_iff_lt.mpr ?_
    rcases Int.lt_or_le n (2 ^ 63 - 512) with hless | hclose
    · have hlow := roundInt_mono (show n ≤ 2 ^ 63 - 513 by omega)
      have hbefore : roundInt (2 ^ 63 - 513) = 2 ^ 63 - 1024 := by decide +kernel
      omega
    · have hhigh := roundInt_mono (show 2 ^ 63 + 1025 ≤ m by omega)
      have hafter : roundInt (2 ^ 63 + 1025) = 2 ^ 63 + 2048 := by decide +kernel
      omega

theorem compare_roundInt_below (hn : -2 ^ 63 ≤ n) (hm : m ≤ -2 ^ 63) :
    compare (roundInt n) (roundInt m) = if n ≤ -2 ^ 63 + 512 ∧ -2 ^ 63 - 1024 ≤ m then .eq else .gt := by
  have habove := compare_roundInt_above (n := -n) (m := -m) (by omega) (by omega)
  rw [roundInt_neg, roundInt_neg, Double.compare_neg_neg] at habove
  rw [← @Ordering.swap_swap (compare (roundInt n) (roundInt m)), habove]
  split
  · rw [if_pos (by omega)]
    rfl
  · rw [if_neg (by omega)]
    rfl

end

/-! ## The order of doubles -/

theorem compareFloats?_eq (x y : Float) : compareFloats? x y = x.toModel.unpack.compare y.toModel.unpack := by
  have hlt : ∀ x y : Float, x < y ↔ x.toModel.unpack.compare y.toModel.unpack = some .lt := by
    intro x y
    change decide (Float.Model.lt x.toModel y.toModel = true) = true ↔ _
    rw [decide_eq_true_eq, Float.Model.lt, UnpackedFloat.lt, beq_iff_eq]
  have heq : (x == y) = true ↔ x.toModel.unpack.compare y.toModel.unpack = some .eq := by
    change (x.toModel.unpack.compare y.toModel.unpack == some .eq) = true ↔ _
    rw [beq_iff_eq]
  unfold compareFloats?
  simp only [gt_iff_lt, hlt, heq]
  rw [Double.compare_swap x.toModel.unpack y.toModel.unpack]
  rcases x.toModel.unpack.compare y.toModel.unpack with _ | _ | _ | _ <;> rfl

theorem compareFloats?_of_isWhole {v w : Int} {x y : Float} (hx : IsWhole v x.toModel.unpack) (hv : v.natAbs < 2 ^ 256)
    (hy : IsWhole w y.toModel.unpack) : compareFloats? x y = some (compare v w) := by
  rw [compareFloats?_eq, Double.compare_of_isWhole hx hv hy]

/-! ## A stored integer -/

def Operator.Relates (op : Operator) (n m : Int) : Prop :=
  match op with
  | .eq => n = m
  | .ne => n ≠ m
  | .gt => n > m
  | .lt => n < m
  | .ge => n ≥ m
  | .le => n ≤ m
  | .contains => False

section
variable {op : Operator} {n : Int64} {t : Numeral}

theorem accepts_compare (op : Operator) (i j : Int) : op.accepts (compare i j) = true ↔ op.Relates i j := by
  rcases Int.lt_trichotomy i j with h | rfl | h
  · rw [compare_lt_iff_lt.mpr h]
    cases op <;> simp [Operator.accepts, Operator.Relates] <;> omega
  · rw [compare_eq_iff_eq.mpr rfl]
    cases op <;> simp [Operator.accepts, Operator.Relates]
  · rw [compare_gt_iff_gt.mpr h]
    cases op <;> simp [Operator.accepts, Operator.Relates] <;> omega

instance (op : Operator) (i j : Int) : Decidable (op.Relates i j) :=
  decidable_of_iff (op.accepts (compare i j) = true) (accepts_compare op i j)

theorem outcome?_int {literal : Value} (h : literalDate? literal = none) :
    outcome? (.int n) literal = compareNumbers? (.int n) literal := by
  rw [outcome?, dateOutcome?, h]
  rfl

theorem satisfies_int_iff (k : Int64) : satisfies op (.int n) (.int k) = true ↔ op.Relates n.toInt k.toInt := by
  cases op with
  | eq =>
    rw [satisfies_eq_same (by simp), Value.same, beq_iff_eq, ← Int64.toInt_inj]
    rfl
  | ne =>
    rw [satisfies_ne, satisfies_eq_same (by simp), Value.same, Bool.not_eq_true', beq_eq_false_iff_ne, Ne, ← Int64.toInt_inj]
    rfl
  | gt | lt | ge | le =>
    have hcompare : compareNumbers? (.int n) (.int k) = some (compare n.toInt k.toInt) := rfl
    rw [satisfies_of_isOrdering rfl, outcome?_int rfl, hcompare, Option.any_some, accepts_compare]
  | contains => exact iff_of_false (Bool.eq_false_iff.mp rfl) id

theorem isWhole_numeral (h : 2 ^ 53 ≤ t.value.natAbs) : IsWhole (roundInt t.value) t.nearest.toModel.unpack := by
  unfold Numeral.value at h ⊢
  unfold Numeral.nearest
  split
  · rename_i hminus
    rw [if_pos hminus, Int.natAbs_neg, Int.natAbs_natCast] at h
    have hround : roundInt (-(Decimal.valueOf t.digits : Int)) = -(Double.roundWhole (Decimal.valueOf t.digits) : Int) := by
      rw [roundInt_neg]
      rfl
    rw [hround]
    exact Double.isWhole_neg (Double.isWhole_nearest h)
  · rename_i hplus
    rw [if_neg hplus, Int.natAbs_natCast] at h
    exact Double.isWhole_nearest h

theorem natAbs_roundInt_lt (n : Int64) : (roundInt n.toInt).natAbs < 2 ^ 256 := by
  have hlow : roundInt (-2 ^ 63) ≤ roundInt n.toInt := roundInt_mono n.le_toInt
  have hhigh : roundInt n.toInt ≤ roundInt (2 ^ 63) := roundInt_mono (Int.le_of_lt n.toInt_lt)
  have hleast : roundInt (-2 ^ 63) = -2 ^ 63 := by decide +kernel
  have hgreatest : roundInt (2 ^ 63) = 2 ^ 63 := by decide +kernel
  rw [hleast] at hlow
  rw [hgreatest] at hhigh
  omega

/-- Both numbers are rounded. -/
theorem compareNumbers?_beyond (n : Int64) (h : 2 ^ 53 ≤ t.value.natAbs) :
    compareNumbers? (.int n) (.float t.nearest) = some (compare (roundInt n.toInt) (roundInt t.value)) :=
  compareFloats?_of_isWhole (Double.isWhole_nearestDouble n) (natAbs_roundInt_lt n) (isWhole_numeral h)

/-- Equality is exact, and order is that of the rounded numbers. -/
theorem satisfies_beyond_iff (h : t.value < -2 ^ 63 ∨ 2 ^ 63 ≤ t.value) :
    satisfies op (.int n) (.float t.nearest) = true ↔
      if op.isOrdering then op.Relates (roundInt n.toInt) (roundInt t.value) else op.Relates n.toInt t.value := by
  have hlow := n.le_toInt
  have hhigh := n.toInt_lt
  cases op with
  | eq =>
    have hne : n.toInt ≠ t.value := by omega
    exact iff_of_false (Bool.eq_false_iff.mp rfl) hne
  | ne =>
    have hne : n.toInt ≠ t.value := by omega
    exact iff_of_true rfl hne
  | gt | lt | ge | le =>
    rw [satisfies_of_isOrdering rfl, outcome?_int rfl, compareNumbers?_beyond n (by omega), Option.any_some,
      accepts_compare]
    exact Iff.rfl
  | contains => exact iff_of_false (Bool.eq_false_iff.mp rfl) id

end

/-! ## A query -/

/-- Both numbers are rounded to the same power of two, and the operator says one thing of equal numbers and another of
these. -/
def Blurred (op : Operator) (n m : Int) : Prop :=
  (op = .lt ∨ op = .ge) ∧ 2 ^ 63 - 512 ≤ n ∧ 2 ^ 63 ≤ m ∧ m ≤ 2 ^ 63 + 1024 ∨
    (op = .gt ∨ op = .le) ∧ n ≤ -2 ^ 63 + 512 ∧ -2 ^ 63 - 1024 ≤ m ∧ m < -2 ^ 63

instance (op : Operator) (n m : Int) : Decidable (Blurred op n m) :=
  inferInstanceAs (Decidable (_ ∨ _))

section
variable {op : Operator} {n m : Int}

theorem relates_roundInt_iff (hop : op.isOrdering = true) (hlow : -2 ^ 63 ≤ n) (hhigh : n < 2 ^ 63)
    (hm : m < -2 ^ 63 ∨ 2 ^ 63 ≤ m) (h : ¬ Blurred op n m) :
    op.Relates (roundInt n) (roundInt m) ↔ op.Relates n m := by
  rw [← accepts_compare, ← accepts_compare]
  rcases hm with hm | hm
  · rw [compare_roundInt_below hlow (by omega), compare_gt_iff_gt.mpr (by omega)]
    split
    · rename_i hclose
      have hother : ¬ (op = .gt ∨ op = .le) := fun hop' => h (.inr ⟨hop', hclose.1, hclose.2, hm⟩)
      cases op with
      | lt | ge => rfl
      | gt | le => simp at hother
      | eq | ne | contains => cases hop
    · rfl
  · rw [compare_roundInt_above (by omega) hm, compare_lt_iff_lt.mpr (by omega)]
    split
    · rename_i hclose
      have hother : ¬ (op = .lt ∨ op = .ge) := fun hop' => h (.inl ⟨hop', hclose.1, hm, hclose.2⟩)
      cases op with
      | gt | le => rfl
      | lt | ge => simp at hother
      | eq | ne | contains => cases hop
    · rfl

/-- The numeral denotes the double of the least integer. -/
theorem relates_roundInt_least (hm : m < -2 ^ 63) (h : Blurred op (-2 ^ 63) m) :
    op.Relates (roundInt (-2 ^ 63)) (roundInt m) ↔ op.Relates (-2 ^ 63) (-2 ^ 63) := by
  have hclose : -2 ^ 63 - 1024 ≤ m := by
    rcases h with ⟨-, hfar, -⟩ | ⟨-, -, hclose, -⟩
    · omega
    · exact hclose
  rw [← accepts_compare, ← accepts_compare, compare_roundInt_below (Int.le_refl _) (by omega),
    if_pos ⟨by decide, hclose⟩, compare_eq_iff_eq.mpr rfl]

end

/-- A stored integer is compared exactly with the integer that the numeral denotes, where rounding does not blur it. The
least integer counts as equal to the numerals whose nearest double it is. -/
theorem integers_compare {path : String} (hpath : Nameable path) {record : Record} {n : Int64}
    (hstored : resolve record path = some (.int n)) (op : Operator) (t : Numeral) (maxDepth : Nat) :
    (¬ Blurred op n.toInt t.value →
      ((ofExpression maxDepth (path ++ " " ++ String.ofList op.symbol ++ " " ++ String.ofList t.text)).accepts record = true ↔
        op.Relates n.toInt t.value)) ∧
    (n = Int64.minValue → Blurred op n.toInt t.value →
      ((ofExpression maxDepth (path ++ " " ++ String.ofList op.symbol ++ " " ++ String.ofList t.text)).accepts record = true ↔
        op.Relates n.toInt n.toInt)) := by
  have hlow := n.le_toInt
  have hhigh := n.toInt_lt
  have hholds : ∀ literal, holdsAt record path op literal = satisfies op (.int n) literal := by
    intro literal
    rw [holdsAt, hstored]
    rfl
  rw [accepts_condition_one hpath op (.name t.isName_text) rfl, hholds, t.coerceChars_text, t.readInt?_text,
    Int64.toInt_minValue, Int64.toInt_maxValue]
  by_cases hrange : -2 ^ 63 ≤ t.value ∧ t.value ≤ 2 ^ 63 - 1
  · have hvalue : (Int64.ofInt t.value).toInt = t.value := Int64.toInt_ofInt_of_le hrange.1 (by omega)
    rw [if_pos hrange, Option.map_some, Option.getD_some, satisfies_int_iff, hvalue]
    refine ⟨fun _ => Iff.rfl, fun _ hblurred => ?_⟩
    rcases hblurred with ⟨-, -, hm, -⟩ | ⟨-, -, -, hm⟩ <;> omega
  · have hbeyond : t.value < -2 ^ 63 ∨ 2 ^ 63 ≤ t.value := by omega
    rw [if_neg hrange, Option.map_none, Option.getD_none, satisfies_beyond_iff hbeyond]
    constructor
    · intro hblurred
      split
      · rename_i hop
        exact relates_roundInt_iff hop hlow hhigh hbeyond hblurred
      · rfl
    · rintro rfl hblurred
      rw [Int64.toInt_minValue] at hblurred ⊢
      have hop : op.isOrdering = true := by
        rcases hblurred with ⟨rfl | rfl, -⟩ | ⟨rfl | rfl, -⟩ <;> rfl
      have hm : t.value < -2 ^ 63 := by
        rcases hblurred with ⟨-, hfar, -⟩ | ⟨-, -, -, hm⟩
        · omega
        · exact hm
      rw [if_pos hop]
      exact relates_roundInt_least hm hblurred

/-- The greatest integer against the next one, and the least integer against the one before. -/
theorem integers_compare_ends :
    Nameable "n" ∧ ¬ Blurred .le Int64.maxValue.toInt 9223372036854775808 ∧
      (ofExpression defaultMaxDepth "n <= +009223372036854775808").accepts (.ofList [("n", .int Int64.maxValue)]) = true ∧
      Blurred .gt Int64.minValue.toInt (-9223372036854775809) ∧
      (ofExpression defaultMaxDepth "n > -9223372036854775809").accepts (.ofList [("n", .int Int64.minValue)]) = false := by
  have hpath : Nameable "n" := by decide
  have hgreatest : ¬ Blurred .le Int64.maxValue.toInt 9223372036854775808 := by decide +kernel
  have hleast : Blurred .gt Int64.minValue.toInt (-9223372036854775809) := by decide +kernel
  refine ⟨hpath, hgreatest, ?_, hleast, ?_⟩
  · obtain ⟨t, htext, hvalue⟩ : ∃ t : Numeral, t.text = "+009223372036854775808".toList ∧ t.value = 9223372036854775808 :=
      ⟨⟨['+'], "009223372036854775808".toList, by decide, by decide, by decide⟩, rfl, by decide +kernel⟩
    have hstored : resolve (.ofList [("n", .int Int64.maxValue)]) "n" = some (.int Int64.maxValue) := rfl
    have h := integers_compare hpath hstored .le t defaultMaxDepth
    rw [htext, hvalue] at h
    exact (h.1 hgreatest).mpr (by decide +kernel)
  · obtain ⟨t, htext, hvalue⟩ : ∃ t : Numeral, t.text = "-9223372036854775809".toList ∧ t.value = -9223372036854775809 :=
      ⟨.ofInt (-9223372036854775809), by decide +kernel, Numeral.value_ofInt _⟩
    have hstored : resolve (.ofList [("n", .int Int64.minValue)]) "n" = some (.int Int64.minValue) := rfl
    have h := integers_compare hpath hstored .gt t defaultMaxDepth
    rw [htext, hvalue] at h
    exact Bool.eq_false_iff.mpr fun haccepted => Int.lt_irrefl _ ((h.2 rfl hleast).mp haccepted)

/-- The least integer is not found to be greater than the one before. -/
theorem least_not_greater :
    resolve (.ofList [("n", .int Int64.minValue)]) "n" = some (.int Int64.minValue) ∧
      ¬ ((ofExpression defaultMaxDepth "n > -9223372036854775809").accepts (.ofList [("n", .int Int64.minValue)]) = true ↔
        Int64.minValue.toInt > -9223372036854775809) := by
  have hrejected : (ofExpression defaultMaxDepth "n > -9223372036854775809").accepts
      (.ofList [("n", .int Int64.minValue)]) = false := by decide +kernel
  have hgreater : Int64.minValue.toInt > -9223372036854775809 := by decide +kernel
  refine ⟨rfl, fun h => ?_⟩
  rw [hrejected] at h
  exact absurd (h.mpr hgreater) Bool.false_ne_true

end DocStore.Query
