import DocStore.Decimal.Digits
import Mathlib.Algebra.Group.Nat.Defs

/-!
# Places of numerals

A run of digits stands for less than the power of ten of its length, and a number below that power is written with just so
many digits.
-/

namespace DocStore.Decimal

theorem pow_le_of_lt_length {k n : Nat} (hn : n ≠ 0) (h : k < (digitsOf n).length) : 10 ^ k ≤ n := by
  induction n using Nat.strongRecOn generalizing k with
  | _ n ih =>
    rw [digitsOf] at h
    split at h
    · obtain rfl : k = 0 := by simpa using h
      omega
    · rw [List.length_append, List.length_singleton] at h
      cases k with
      | zero => omega
      | succ k =>
        have hfirst : 10 ^ k ≤ n / 10 := ih (n / 10) (by omega) (by omega) (by omega)
        exact (Nat.le_div_iff_mul_le (by decide)).mp hfirst

theorem digitValue_lt {c : Char} (h : isDigit c = true) : digitValue c < 10 := by
  have hle : c ≤ '9' := by
    unfold isDigit at h
    simp only [Bool.and_eq_true, decide_eq_true_eq] at h
    exact h.2
  have hnat : c.toNat ≤ '9'.toNat := hle
  have hnine : '9'.toNat = 57 := rfl
  have hzero : '0'.toNat = 48 := rfl
  unfold digitValue
  omega

theorem valueOf_lt {ds : List Char} (h : ∀ d ∈ ds, isDigit d = true) : valueOf ds < 10 ^ ds.length := by
  suffices hfold : ∀ n, ds.foldl (fun n d => n * 10 + digitValue d) n < (n + 1) * 10 ^ ds.length by
    have hstart := hfold 0
    rw [Nat.zero_add, Nat.one_mul] at hstart
    exact hstart
  induction ds with
  | nil => intro n; simp
  | cons d ds ih =>
    intro n
    have hd : digitValue d < 10 := digitValue_lt (h d List.mem_cons_self)
    have hrest := ih (fun d hd => h d (List.mem_cons_of_mem _ hd)) (n * 10 + digitValue d)
    rw [List.foldl_cons, List.length_cons, Nat.pow_succ']
    calc _ < (n * 10 + digitValue d + 1) * 10 ^ ds.length := hrest
      _ ≤ ((n + 1) * 10) * 10 ^ ds.length := Nat.mul_le_mul_right _ (by omega)
      _ = (n + 1) * (10 * 10 ^ ds.length) := Nat.mul_assoc ..

section
variable {size n : Nat}

theorem isDigit_of_mem_padded {c : Char} (h : c ∈ padded size n) : isDigit c = true := by
  rcases List.mem_append.mp h with h | h
  · rw [List.eq_of_mem_replicate h]
    decide
  · exact isDigit_of_mem_digitsOf h

theorem padded_ne_nil : padded size n ≠ [] := by
  simp [padded, digitsOf_ne_nil]

theorem length_padded (hsize : 0 < size) (h : n < 10 ^ size) : (padded size n).length = size := by
  have hlength : (digitsOf n).length ≤ size := by
    by_cases hn : n = 0
    · subst hn
      rw [digitsOf]
      exact hsize
    · apply Nat.le_of_not_lt
      intro hlong
      have hpow := pow_le_of_lt_length hn hlong
      omega
  simp only [padded, List.length_append, List.length_replicate]
  omega

theorem valueOf_padded (size n : Nat) : valueOf (padded size n) = n := by
  have hzeros : ∀ k, (List.replicate k '0').foldl (fun n d => n * 10 + digitValue d) 0 = 0 := by
    intro k
    induction k with
    | zero => rfl
    | succ k ih => exact ih
  have hvalue := valueOf_digitsOf n
  unfold valueOf at hvalue ⊢
  rw [padded, List.foldl_append, hzeros, hvalue]

end

end DocStore.Decimal
