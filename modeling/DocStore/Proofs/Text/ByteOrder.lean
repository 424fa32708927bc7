import Mathlib.Data.String.Basic
import Mathlib.Tactic.SplitIfs

/-!
# Order of bytes

Texts are compared character by character. Their encoded bytes compare alike (`bytes_lt_iff`): of two characters the
greater one has the greater bytes, whatever follows, since no encoding is a prefix of another one.
-/

namespace DocStore.Text

def bytes (s : String) : List UInt8 :=
  s.toUTF8.data.toList

theorem bytes_ofList (cs : List Char) : bytes (String.ofList cs) = cs.flatMap String.utf8EncodeChar := by
  unfold bytes
  rw [String.toUTF8_eq_toByteArray, String.toByteArray_ofList]
  unfold List.utf8Encode
  simp

/-! ## One character -/

def continuation (v : Nat) : Nat → List UInt8
  | 0 => []
  | n + 1 => UInt8.ofNat (v / 64 ^ n % 64 + 0x80) :: continuation v n

def continuationLength (v : Nat) : Nat :=
  if v ≤ 0x7f then 0 else if v ≤ 0x7ff then 1 else if v ≤ 0xffff then 2 else 3

def leadByte (v : Nat) : Nat :=
  if v ≤ 0x7f then v else if v ≤ 0x7ff then v / 64 + 0xc0 else if v ≤ 0xffff then v / 4096 + 0xe0
  else v / 262144 + 0xf0

theorem toNat_lt (c : Char) : c.toNat < 0x110000 := by
  rcases c.valid with h | h
  · exact Nat.lt_trans h (by decide)
  · exact h.2

theorem utf8EncodeChar_eq (c : Char) : String.utf8EncodeChar c =
    UInt8.ofNat (leadByte c.toNat) :: continuation c.toNat (continuationLength c.toNat) := by
  have hmax := toNat_lt c
  have hval : c.val.toNat = c.toNat := rfl
  unfold String.utf8EncodeChar leadByte continuationLength
  simp only [hval]
  -- one case for each length; the lead byte has room for all the digits that are left
  split
  · rfl
  · split
    · rw [Nat.mod_eq_of_lt (by omega)]; simp [continuation]
    · split
      · rw [Nat.mod_eq_of_lt (by omega)]; simp [continuation]
      · rw [Nat.mod_eq_of_lt (by omega)]; simp [continuation]

theorem ofNat_lt_ofNat {v w : Nat} (h : v < w) (hw : w < 256) : UInt8.ofNat v < UInt8.ofNat w := by
  rw [UInt8.lt_iff_toNat_lt, UInt8.toNat_ofNat', UInt8.toNat_ofNat']
  omega

theorem leadByte_lt {v : Nat} (h : v < 0x110000) : leadByte v < 256 := by
  unfold leadByte
  split_ifs <;> omega

/-- A greater number has a greater lead byte, or the same one and then differs in the digits that follow. -/
theorem leadByte_lt_or_eq {v w : Nat} (h : v < w) :
    leadByte v < leadByte w ∨ leadByte v = leadByte w ∧ continuationLength v = continuationLength w ∧
      v / 64 ^ continuationLength w = w / 64 ^ continuationLength w := by
  unfold leadByte continuationLength
  split_ifs <;> omega

theorem continuation_append_lt {v w : Nat} (h : v < w) {n : Nat} (hn : v / 64 ^ n = w / 64 ^ n)
    (as bs : List UInt8) : continuation v n ++ as < continuation w n ++ bs := by
  induction n with
  | zero => rw [Nat.pow_zero, Nat.div_one, Nat.div_one] at hn; omega
  | succ n ih =>
    rw [Nat.pow_succ, ← Nat.div_div_eq_div_mul, ← Nat.div_div_eq_div_mul] at hn
    have hle : v / 64 ^ n ≤ w / 64 ^ n := Nat.div_le_div_right (Nat.le_of_lt h)
    rw [continuation, continuation, List.cons_append, List.cons_append, List.cons_lt_cons_iff]
    by_cases heq : v / 64 ^ n = w / 64 ^ n
    · rw [heq]; exact .inr ⟨rfl, ih heq⟩
    · exact .inl (ofNat_lt_ofNat (by omega) (by omega))

theorem utf8EncodeChar_append_lt {c d : Char} (h : c < d) (as bs : List UInt8) :
    String.utf8EncodeChar c ++ as < String.utf8EncodeChar d ++ bs := by
  have hlt : c.toNat < d.toNat := h
  rw [utf8EncodeChar_eq, utf8EncodeChar_eq, List.cons_append, List.cons_append, List.cons_lt_cons_iff]
  rcases leadByte_lt_or_eq hlt with hlead | ⟨hlead, hlength, hdiv⟩
  · exact .inl (ofNat_lt_ofNat hlead (leadByte_lt (toNat_lt d)))
  · rw [hlead, hlength]
    exact .inr ⟨rfl, continuation_append_lt hlt hdiv as bs⟩

/-! ## Whole texts -/

theorem flatMap_utf8EncodeChar_lt {cs ds : List Char} (h : cs < ds) :
    cs.flatMap String.utf8EncodeChar < ds.flatMap String.utf8EncodeChar := by
  induction cs generalizing ds with
  | nil =>
    cases ds with
    | nil => cases h
    | cons d ds => rw [List.flatMap_cons, utf8EncodeChar_eq]; exact List.nil_lt_cons _ _
  | cons c cs ih =>
    cases ds with
    | nil => cases h
    | cons d ds =>
      rw [List.flatMap_cons, List.flatMap_cons]
      rcases List.cons_lt_cons_iff.mp h with hc | ⟨rfl, hcs⟩
      · exact utf8EncodeChar_append_lt hc _ _
      · exact List.append_left_lt (ih hcs)

theorem bytes_lt {s t : String} (h : s < t) : bytes s < bytes t := by
  rw [← String.ofList_toList (s := s), ← String.ofList_toList (s := t), bytes_ofList, bytes_ofList]
  exact flatMap_utf8EncodeChar_lt (String.lt_iff_toList_lt.mp h)

theorem bytes_lt_iff {s t : String} : bytes s < bytes t ↔ s < t := by
  refine ⟨fun h => ?_, bytes_lt⟩
  rcases lt_trichotomy s t with hst | rfl | hts
  · exact hst
  · exact absurd h (List.lt_irrefl _)
  · exact absurd h (List.lt_asymm (bytes_lt hts))

end DocStore.Text
