/-!
# Decimal digits

Natural numbers as lists of decimal digits, in both directions.
-/

namespace DocStore.Decimal

def isDigit (c : Char) : Bool :=
  '0' ≤ c && c ≤ '9'

def digitValue (c : Char) : Nat :=
  c.toNat - '0'.toNat

def valueOf (ds : List Char) : Nat :=
  ds.foldl (fun n d => n * 10 + digitValue d) 0

def digitChar (d : Nat) : Char :=
  Char.ofNat ('0'.toNat + d % 10)

def digitsOf (n : Nat) : List Char :=
  if n < 10 then [digitChar n] else digitsOf (n / 10) ++ [digitChar n]
termination_by n
decreasing_by omega

def padded (size n : Nat) : List Char :=
  let ds := digitsOf n
  List.replicate (size - ds.length) '0' ++ ds

def ofInt (i : Int) : List Char :=
  if i < 0 then '-' :: digitsOf i.natAbs else digitsOf i.natAbs

/-! ## Both directions agree -/

theorem digitValue_digitChar {d : Nat} (h : d < 10) : digitValue (digitChar d) = d := by
  have cases : d = 0 ∨ d = 1 ∨ d = 2 ∨ d = 3 ∨ d = 4 ∨ d = 5 ∨ d = 6 ∨ d = 7 ∨ d = 8 ∨ d = 9 := by omega
  rcases cases with rfl | rfl | rfl | rfl | rfl | rfl | rfl | rfl | rfl | rfl <;> decide

theorem digitChar_mod (n : Nat) : digitChar (n % 10) = digitChar n := by
  simp [digitChar]

theorem isDigit_digitChar (n : Nat) : isDigit (digitChar n) = true := by
  have h : n % 10 < 10 := Nat.mod_lt _ (by decide)
  rw [← digitChar_mod]
  generalize n % 10 = d at h
  have cases : d = 0 ∨ d = 1 ∨ d = 2 ∨ d = 3 ∨ d = 4 ∨ d = 5 ∨ d = 6 ∨ d = 7 ∨ d = 8 ∨ d = 9 := by omega
  rcases cases with rfl | rfl | rfl | rfl | rfl | rfl | rfl | rfl | rfl | rfl <;> decide

theorem valueOf_append_singleton (ds : List Char) (d : Char) :
    valueOf (ds ++ [d]) = valueOf ds * 10 + digitValue d := by
  simp [valueOf, List.foldl_append]

theorem valueOf_digitsOf (n : Nat) : valueOf (digitsOf n) = n := by
  induction n using Nat.strongRecOn with
  | _ n ih =>
    rw [digitsOf]
    split
    · rename_i h
      simp [valueOf, digitValue_digitChar h]
    · rename_i h
      rw [valueOf_append_singleton, ih (n / 10) (by omega), ← digitChar_mod,
        digitValue_digitChar (Nat.mod_lt _ (by decide))]
      omega

theorem digitsOf_ne_nil (n : Nat) : digitsOf n ≠ [] := by
  rw [digitsOf]; split <;> simp

theorem isDigit_of_mem_digitsOf {n : Nat} {c : Char} (h : c ∈ digitsOf n) : isDigit c = true := by
  induction n using Nat.strongRecOn with
  | _ n ih =>
    rw [digitsOf] at h
    split at h
    · rw [List.mem_singleton.1 h]
      exact isDigit_digitChar n
    · rename_i hn
      rcases List.mem_append.1 h with h | h
      · exact ih (n / 10) (by omega) h
      · rw [List.mem_singleton.1 h]
        exact isDigit_digitChar n

end DocStore.Decimal
