import DocStore.Proofs.Json.Taking

/-!
# Written numbers

The parts of a number determine its text, and scanning the text gives back the parts (`scanLiteral_text`), whatever
follows it that is no part of a number. Whole numbers and doubles are both written as such texts.
-/

namespace DocStore.Json

open Decimal (isDigit digitsOf digitsOf_ne_nil)

namespace Literal

def fractionText (lit : Literal) : List Char :=
  if lit.hasFraction then '.' :: lit.fraction else []

def powerText (lit : Literal) : List Char :=
  match lit.power with
  | none => []
  | some (negative, ds) => 'e' :: (if negative then '-' else '+') :: ds

def text (lit : Literal) : List Char :=
  lit.whole ++ lit.fractionText ++ lit.powerText

def written (lit : Literal) : List Char :=
  if lit.negative then '-' :: lit.text else lit.text

/-- The parts are such that a reader accepts their text. -/
structure Proper (lit : Literal) : Prop where
  whole_ne_nil : lit.whole ≠ []
  whole_digits : ∀ c ∈ lit.whole, isDigit c = true
  whole_zero : lit.whole.head? = some '0' → lit.whole = ['0']
  fraction_digits : ∀ c ∈ lit.fraction, isDigit c = true
  fraction_iff : lit.hasFraction = true ↔ lit.fraction ≠ []
  power_digits : ∀ p ∈ lit.power, p.2 ≠ [] ∧ ∀ c ∈ p.2, isDigit c = true

end Literal

def EndsNumber (s : List Char) : Prop :=
  ∀ c ∈ s.head?, isDigit c = false ∧ c ≠ '.' ∧ c ≠ 'e' ∧ c ≠ 'E'

/-! ## Scanning a text -/

theorem spanDigits_append {ds : List Char} (hd : ∀ c ∈ ds, isDigit c = true) {s : List Char}
    (hs : ∀ c ∈ s.head?, isDigit c = false) : spanDigits (ds ++ s) = (ds, s) := by
  have hstop : s.takeWhile isDigit = [] ∧ s.dropWhile isDigit = s := by
    cases s with
    | nil => exact ⟨rfl, rfl⟩
    | cons c s => simp [hs c rfl]
  unfold spanDigits
  rw [List.takeWhile_append_of_pos hd, List.dropWhile_append_of_pos hd, hstop.1, hstop.2, List.append_nil]

theorem scanWhole_append {ds : List Char} (hne : ds ≠ []) (hd : ∀ c ∈ ds, isDigit c = true)
    (hz : ds.head? = some '0' → ds = ['0']) {s : List Char} (hs : ∀ c ∈ s.head?, isDigit c = false) :
    scanWhole (ds ++ s) = .ok (ds, s) := by
  obtain ⟨c, ds, rfl⟩ := List.exists_cons_of_ne_nil hne
  by_cases hc : c = '0'
  · subst hc
    cases hz rfl
    cases s with
    | nil => rfl
    | cons c s => simp [scanWhole, hs c rfl]
  · have hcd : isDigit c = true := hd c (List.mem_cons_self ..)
    have hspan := spanDigits_append hd hs
    unfold scanWhole
    split
    · rename_i h; cases h
    · rename_i h; cases h; exact absurd rfl hc
    · rename_i h; cases h; rw [if_pos hcd, hspan]

theorem scanFraction_text {lit : Literal} (hlit : lit.Proper) {s : List Char}
    (hs : ∀ c ∈ s.head?, isDigit c = false ∧ c ≠ '.') :
    scanFraction (lit.fractionText ++ s) = .ok (if lit.hasFraction then some lit.fraction else none, s) := by
  unfold Literal.fractionText
  by_cases hf : lit.hasFraction = true
  · have hspan := spanDigits_append hlit.fraction_digits fun c hc => (hs c hc).1
    obtain ⟨d, ds, hds⟩ := List.exists_cons_of_ne_nil (hlit.fraction_iff.mp hf)
    simp only [hf, if_true, List.cons_append, scanFraction, hspan]
    rw [hds]
  · simp only [hf, Bool.false_eq_true, if_false, List.nil_append]
    unfold scanFraction
    split
    · exact absurd rfl (hs '.' rfl).2
    · rfl

theorem scanPower_text {lit : Literal} (hlit : lit.Proper) {s : List Char} (hs : EndsNumber s) :
    scanPower (lit.powerText ++ s) = .ok (lit.power, s) := by
  unfold Literal.powerText
  cases hp : lit.power with
  | none =>
    simp only [List.nil_append]
    cases s with
    | nil => rfl
    | cons c s =>
      obtain ⟨-, -, he, hE⟩ := hs c rfl
      simp [scanPower, he, hE]
  | some p =>
    obtain ⟨negative, ds⟩ := p
    obtain ⟨hne, hd⟩ := hlit.power_digits _ hp
    have hspan := spanDigits_append hd fun c hc => (hs c hc).1
    obtain ⟨d, ds, rfl⟩ := List.exists_cons_of_ne_nil hne
    cases negative <;> simp only [List.cons_append, scanPower] at hspan ⊢ <;> simp [hspan]

theorem Literal.powerText_head {lit : Literal} {s : List Char} (hs : EndsNumber s) :
    ∀ c ∈ (lit.powerText ++ s).head?, isDigit c = false ∧ c ≠ '.' := by
  intro c hc
  unfold Literal.powerText at hc
  cases hp : lit.power with
  | none => rw [hp] at hc; exact ⟨(hs c hc).1, (hs c hc).2.1⟩
  | some p => rw [hp] at hc; cases hc; decide

theorem Literal.fractionText_head {lit : Literal} {s : List Char} (hs : ∀ c ∈ s.head?, isDigit c = false) :
    ∀ c ∈ (lit.fractionText ++ s).head?, isDigit c = false := by
  intro c hc
  unfold Literal.fractionText at hc
  split at hc
  · cases hc; decide
  · exact hs c hc

theorem scanLiteral_text {lit : Literal} (hlit : lit.Proper) {s : List Char} (hs : EndsNumber s) :
    scanLiteral lit.negative (lit.text ++ s) = .ok (lit, s) := by
  have hpower := lit.powerText_head hs
  have hwhole : scanWhole (lit.text ++ s) = .ok (lit.whole, lit.fractionText ++ (lit.powerText ++ s)) := by
    rw [Literal.text, List.append_assoc, List.append_assoc]
    exact scanWhole_append hlit.whole_ne_nil hlit.whole_digits hlit.whole_zero
      (lit.fractionText_head fun c hc => (hpower c hc).1)
  simp only [scanLiteral, hwhole, bind, Except.bind, scanFraction_text hlit hpower, scanPower_text hlit hs, pure,
    Except.pure]
  obtain ⟨negative, whole, fraction, power, hasFraction⟩ := lit
  cases hasFraction with
  | true => rfl
  | false =>
    have hnil : fraction = [] := Decidable.byContradiction fun hne => by cases hlit.fraction_iff.mpr hne
    subst hnil; rfl

/-! ## Reading a text -/

theorem outcome_readNumber {negative : Bool} {s rest : List Char} {lit : Literal}
    (h : scanLiteral negative s = .ok (lit, rest)) :
    outcome (readNumber negative s) = lit.value.toOption.map fun j => (j, rest) := by
  unfold readNumber
  split
  · rename_i h'; rw [h] at h'; cases h'
  · rename_i h'
    rw [h] at h'; cases h'
    cases lit.value <;> rfl

theorem outcome_readNumber_error {negative : Bool} {s : List Char} {fault : Fault}
    (h : scanLiteral negative s = .error fault) : outcome (readNumber negative s) = none := by
  unfold readNumber
  split <;> rename_i h' <;> rw [h] at h' <;> cases h'
  rfl

theorem ne_of_isDigit {c d : Char} (hc : isDigit c = true) (hd : isDigit d = false) : c ≠ d := by
  rintro rfl; rw [hd] at hc; cases hc

theorem Literal.Proper.text_head {lit : Literal} (hlit : lit.Proper) :
    ∃ c cs, lit.text = c :: cs ∧ isDigit c = true := by
  obtain ⟨c, cs, hwhole⟩ := List.exists_cons_of_ne_nil hlit.whole_ne_nil
  refine ⟨c, cs ++ lit.fractionText ++ lit.powerText, by simp [Literal.text, hwhole], ?_⟩
  exact hlit.whole_digits c (by simp [hwhole])

theorem readScalar_digit {c : Char} (hc : isDigit c = true) (rest : List Char) :
    readScalar (c :: rest) = readNumber false (c :: rest) := by
  unfold readScalar
  simp only [ne_of_isDigit hc (show isDigit 'n' = false by decide),
    ne_of_isDigit hc (show isDigit 't' = false by decide), ne_of_isDigit hc (show isDigit 'f' = false by decide),
    ne_of_isDigit hc (show isDigit '-' = false by decide), hc, if_false, if_true]

theorem outcome_readScalar_minus (rest : List Char) :
    outcome (readScalar ('-' :: rest)) = outcome (readNumber true rest) :=
  outcome_widen _ _

/-! ## Whole numbers -/

theorem head_digitsOf {n : Nat} (hn : n ≠ 0) : (digitsOf n).head? ≠ some '0' := by
  induction n using Nat.strongRecOn with
  | _ n ih =>
    rw [digitsOf]
    split
    · rename_i hlt
      intro h
      have : Decimal.digitChar n = '0' := by simpa using h
      have hv := Decimal.digitValue_digitChar hlt
      rw [this] at hv
      exact hn hv.symm
    · rename_i hge
      have := ih (n / 10) (by omega) (by omega)
      obtain ⟨c, cs, hc⟩ := List.exists_cons_of_ne_nil (digitsOf_ne_nil (n / 10))
      rw [hc] at this ⊢; exact this

def wholeLiteral (negative : Bool) (n : Nat) : Literal :=
  ⟨negative, digitsOf n, [], none, false⟩

theorem proper_wholeLiteral (negative : Bool) (n : Nat) : (wholeLiteral negative n).Proper where
  whole_ne_nil := digitsOf_ne_nil n
  whole_digits _ := Decimal.isDigit_of_mem_digitsOf
  whole_zero h := by
    by_cases hn : n = 0
    · subst hn; rw [wholeLiteral, digitsOf]; rfl
    · exact absurd h (head_digitsOf hn)
  fraction_digits := by simp [wholeLiteral]
  fraction_iff := by simp [wholeLiteral]
  power_digits := by simp [wholeLiteral]

theorem le_foldl_digits (ds : List Char) (n : Nat) :
    n ≤ ds.foldl (fun n d => n * 10 + Decimal.digitValue d) n := by
  induction ds generalizing n with
  | nil => exact Nat.le_refl n
  | cons d ds ih => exact Nat.le_trans (by omega) (ih (n * 10 + Decimal.digitValue d))

theorem gather_eq {limit : Nat} (ds : List Char) {n m : Nat}
    (h : ds.foldl (fun n d => n * 10 + Decimal.digitValue d) n = m) (hm : m ≤ limit) :
    gather limit n ds = (m, []) := by
  induction ds generalizing n with
  | nil => cases h; rfl
  | cons d ds ih =>
    rw [List.foldl_cons] at h
    have hnext := le_foldl_digits ds (n * 10 + Decimal.digitValue d)
    rw [gather]
    rw [if_pos (by omega), ih h]

theorem value_whole (negative : Bool) {whole : List Char} (h : Decimal.valueOf whole ≤ maxSignificand) :
    Literal.value ⟨negative, whole, [], none, false⟩ = .ok (wholeNumber negative (Decimal.valueOf whole)) := by
  have hgather := gather_eq whole rfl h
  simp [Literal.value, hgather, Decimal.valueOf]

theorem value_wholeLiteral (negative : Bool) {n : Nat} (hn : n < UInt64.size) :
    (wholeLiteral negative n).value = .ok (wholeNumber negative n) := by
  have hvalue := Decimal.valueOf_digitsOf n
  have h := @value_whole negative (digitsOf n) (by rw [hvalue]; exact Nat.le_pred_of_lt hn)
  rwa [hvalue] at h

end DocStore.Json
