import DocStore.Proofs.Json.Numerals

/-!
# Written doubles

The digits chosen for a double have no leading zero unless the double is zero (`shortest_digits`), so every layout of
them is a number that a reader accepts, with a fraction or a power of ten (`renderFloat_written`).
-/

namespace DocStore.Decimal

theorem scaleUp_pos {base n : Nat} (hb : 0 < base) (hn : 0 < n) (e : Int) : 0 < (scaleUp base n e).1 := by
  unfold scaleUp
  split
  · exact Nat.mul_pos hn (Nat.pow_pos hb)
  · exact hn

theorem half_gap_lt {mantissa n n' : Nat} (hm : mantissa ≠ 0) (hn : 0 < n) (hn' : 0 < n') :
    2 * n * n' < mantissa * 4 * n * n' := by
  have hpos : 0 < n * n' := Nat.mul_pos hn hn'
  have hle : 1 * (n * n') ≤ mantissa * (n * n') := Nat.mul_le_mul_right _ (Nat.pos_of_ne_zero hm)
  have hassoc : mantissa * 4 * n * n' = 4 * (mantissa * (n * n')) := by
    rw [Nat.mul_comm mantissa 4, Nat.mul_assoc, Nat.mul_assoc]
  rw [Nat.mul_assoc, hassoc]; omega

theorem onGrid_digits {tie : Tie} {b : Binary} (hb : b.mantissa ≠ 0) {unit : Int} {s : Scaled}
    (h : onGrid tie b unit = some s) : s.digits ≠ 0 := by
  have hn := scaleUp_pos (show 0 < 2 by decide) (show 0 < 1 by decide) b.exponent
  have hn' := scaleUp_pos (show 0 < 10 by decide) (show 0 < 1 by decide) (-unit)
  unfold onGrid at h
  generalize scaleUp 2 1 b.exponent = p at h hn
  generalize scaleUp 10 1 (-unit) = p' at h hn'
  obtain ⟨n, d⟩ := p
  obtain ⟨n', d'⟩ := p'
  dsimp only at h hn hn'
  -- zero is further from the value than half a gap
  have hnum := half_gap_lt hb hn hn'
  have hbelow : (if b.narrowBelow = true then n * n' else 2 * n * n') ≤ 2 * n * n' := by
    split
    · rw [Nat.mul_assoc]; omega
    · exact Nat.le_refl _
  generalize b.mantissa * 4 * n * n' = num at h hnum
  generalize (if b.narrowBelow = true then n * n' else 2 * n * n') = below at h hbelow
  generalize 2 * n * n' = half at h hnum hbelow
  have hlow : num / (d * d' * 4) = 0 →
      ¬ (num - num / (d * d' * 4) * (d * d' * 4) < below ∨
        b.mantissa % 2 = 0 ∧ num - num / (d * d' * 4) * (d * d' * 4) = below) := by
    intro hq
    rw [hq]; omega
  generalize num / (d * d' * 4) = q at h hlow
  split at h
  · rename_i hboth
    have hq : q ≠ 0 := fun hq => hlow hq hboth.1
    split at h
    · cases h; exact hq
    · split at h
      · cases h; exact Nat.succ_ne_zero q
      · split at h
        · cases h; exact Nat.succ_ne_zero q
        · cases h
          dsimp only
          split <;> omega
  · split at h
    · rename_i hl; cases h; exact fun hq => hlow hq hl
    · split at h
      · cases h; exact Nat.succ_ne_zero q
      · cases h

theorem search_digits {tie : Tie} {b : Binary} (hb : b.mantissa ≠ 0) (steps : Nat) (unit : Int) :
    (search tie b unit steps).digits ≠ 0 ∨ search tie b unit steps = ⟨0, 0⟩ := by
  induction steps generalizing unit with
  | zero => exact .inr rfl
  | succ steps ih =>
    rw [search]
    cases h : onGrid tie b unit with
    | none => exact ih (unit - 1)
    | some s => exact .inl (onGrid_digits hb h)

theorem trimZeros_digits {s : Scaled} (hs : s.digits ≠ 0) : (trimZeros s).digits ≠ 0 := by
  induction s using trimZeros.induct with
  | case1 s h ih => rw [trimZeros, if_pos h]; exact ih (by dsimp only; omega)
  | case2 s h => rw [trimZeros, if_neg h]; exact hs

/-- Only zero has a zero for its first digit. -/
theorem shortest_digits (tie : Tie) (x : Float) : (shortest tie x).digits ≠ 0 ∨ shortest tie x = ⟨0, 0⟩ := by
  unfold shortest
  dsimp only
  split
  · exact .inr rfl
  · rename_i hb
    rcases search_digits hb 20 (magnitude (Binary.ofFloat x)) with h | h
    · exact .inl (trimZeros_digits h)
    · rw [h, trimZeros]; exact .inr rfl

end DocStore.Decimal

namespace DocStore.Json

open Decimal (isDigit digitsOf digitsOf_ne_nil)

theorem isNaN_isInf_of_isFinite {x : Float} (h : x.isFinite = true) : x.isNaN = false ∧ x.isInf = false := by
  have hunpacked : ∀ u : Float.Model.UnpackedFloat, u.isFinite = true → u.isNaN = false ∧ u.isInf = false := by
    intro u hu
    cases u with
    | notANumber | infinity => cases hu
    | zero | finite => exact ⟨rfl, rfl⟩
  exact hunpacked x.toModel.unpack h

/-! ## Layouts are numbers -/

def Literal.Inexact (lit : Literal) : Prop :=
  lit.hasFraction = true ∨ lit.power.isSome = true

theorem isDigit_of_mem_zeros {n : Nat} {c : Char} (h : c ∈ List.replicate n '0') : isDigit c = true := by
  rw [(List.mem_replicate.mp h).2]; decide

section
variable {ds : List Char} (hne : ds ≠ []) (hd : ∀ c ∈ ds, isDigit c = true)
include hne hd

theorem positional_text (negative : Bool) {point : Int} (hz : ds.head? = some '0' → ds = ['0'] ∧ point = 1) :
    ∃ lit : Literal, lit.negative = negative ∧ lit.Proper ∧ lit.Inexact ∧ lit.text = doubles.positional ds point := by
  unfold Decimal.Layout.positional
  by_cases hp : point ≤ 0
  · refine ⟨⟨negative, ['0'], List.replicate (-point).toNat '0' ++ ds, none, true⟩, rfl, ?_, .inl rfl, ?_⟩
    · refine ⟨by simp, by simp; decide, fun _ => rfl, ?_, by simp [hne], by simp⟩
      intro c hc
      rcases List.mem_append.mp hc with hc | hc
      · exact isDigit_of_mem_zeros hc
      · exact hd c hc
    · simp [Literal.text, Literal.fractionText, Literal.powerText, hp]
  · by_cases hl : ds.length ≤ point.toNat
    · refine ⟨⟨negative, ds ++ List.replicate (point.toNat - ds.length) '0', ['0'], none, true⟩, rfl, ?_,
        .inl rfl, ?_⟩
      · refine ⟨by simp [hne], ?_, ?_, by simp; decide, by simp, by simp⟩
        · intro c hc
          rcases List.mem_append.mp hc with hc | hc
          · exact hd c hc
          · exact isDigit_of_mem_zeros hc
        · intro h
          obtain ⟨c, cs, rfl⟩ := List.exists_cons_of_ne_nil hne
          obtain ⟨hds, rfl⟩ := hz h
          rw [hds]; rfl
      · simp [Literal.text, Literal.fractionText, Literal.powerText, hp, hl, doubles]
    · refine ⟨⟨negative, ds.take point.toNat, ds.drop point.toNat, none, true⟩, rfl, ?_, .inl rfl, ?_⟩
      · refine ⟨?_, fun c hc => hd c (List.mem_of_mem_take hc), ?_, fun c hc => hd c (List.mem_of_mem_drop hc), ?_,
          by simp⟩
        · simp only [ne_eq, List.take_eq_nil_iff, hne, or_false]; omega
        · intro h
          rw [List.head?_take, if_neg (by omega)] at h
          obtain ⟨rfl, rfl⟩ := hz h
          exact absurd (Nat.le_refl 1) hl
        · simp only [ne_eq, List.drop_eq_nil_iff, hl, not_false_eq_true]
      · simp [Literal.text, Literal.fractionText, Literal.powerText, hp, hl]

theorem scientific_text (negative : Bool) (power : Int) :
    ∃ lit : Literal, lit.negative = negative ∧ lit.Proper ∧ lit.Inexact ∧ lit.text = Decimal.scientific ds power := by
  obtain ⟨d, fs, rfl⟩ := List.exists_cons_of_ne_nil hne
  refine ⟨⟨negative, [d], fs, some (decide (power < 0), digitsOf power.natAbs), !fs.isEmpty⟩, rfl, ?_, .inr rfl, ?_⟩
  · refine ⟨by simp, ?_, ?_, fun c hc => hd c (List.mem_cons_of_mem d hc), by simp, ?_⟩
    · intro c hc
      rw [List.mem_singleton.mp hc]; exact hd d (List.mem_cons_self ..)
    · intro h; cases h; rfl
    · intro p hp
      cases hp
      exact ⟨digitsOf_ne_nil _, fun c => Decimal.isDigit_of_mem_digitsOf⟩
  · unfold Decimal.scientific
    cases fs <;> simp [Literal.text, Literal.fractionText, Literal.powerText]


end

theorem renderFloat_written {x : Float} (hx : x.isFinite = true) :
    ∃ lit : Literal, lit.Proper ∧ lit.Inexact ∧ lit.written = renderFloat x := by
  obtain ⟨hnan, hinf⟩ := isNaN_isInf_of_isFinite hx
  unfold renderFloat Decimal.Layout.render
  simp only [hx, hnan, hinf, if_true, Bool.false_eq_true, if_false]
  have hne := digitsOf_ne_nil (Decimal.shortest doubles.tie x).digits
  have hd : ∀ c ∈ digitsOf (Decimal.shortest doubles.tie x).digits, isDigit c = true :=
    fun c => Decimal.isDigit_of_mem_digitsOf
  have hlit : ∀ cs,
      (∃ lit : Literal, lit.negative = Decimal.isNegative x ∧ lit.Proper ∧ lit.Inexact ∧ lit.text = cs) →
      ∃ lit : Literal, lit.Proper ∧ lit.Inexact ∧
        lit.written = (if Decimal.isNegative x = true then ['-'] else []) ++ cs := by
    rintro cs ⟨lit, hn, hp, hi, rfl⟩
    refine ⟨lit, hp, hi, ?_⟩
    unfold Literal.written
    rw [hn]; split <;> rfl
  refine hlit _ ?_
  split
  · refine positional_text hne hd _ fun hz => ?_
    rcases Decimal.shortest_digits doubles.tie x with h | h
    · exact absurd hz (head_digitsOf h)
    · have h0 : digitsOf 0 = ['0'] := by rw [digitsOf]; rfl
      rw [h]; dsimp only; rw [h0]; exact ⟨rfl, rfl⟩
  · exact scientific_text hne hd _ _

end DocStore.Json
