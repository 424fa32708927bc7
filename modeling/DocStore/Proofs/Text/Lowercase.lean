import DocStore.Proofs.Query.Lexemes
import DocStore.Text.Lowercase

/-!
# Lower case inside a text

Lower case goes character by character. Only the small form of a capital sigma depends on what stands around it, so a part
of a text has the same small form inside the text as on its own just if each capital sigma in it ends a word in both
(`lowerWithin_eq_iff`). Whether the ASCII letters are capital or small makes no difference (`lowerFrom_congr`).
-/

namespace DocStore.Text

open Query (of_ascii toLower_of_not_ascii)

/-- Whether a capital sigma ends a word here; `before` is what stands before it, last character first. -/
def isFinal (before rest : List Char) : Bool :=
  meetsCased before && !meetsCased rest

def lowerAt (before : List Char) (c : Char) (rest : List Char) : List Char :=
  if c.toNat = 0x3A3 then [Char.ofNat (if isFinal before rest then 0x3C2 else 0x3C3)] else lowerChar c

/-- Lower case of a text that stands between two others, the first one given from its end. -/
def lowerWithin (before after : List Char) : List Char → List Char
  | [] => []
  | c :: rest => lowerAt before c (rest ++ after) ++ lowerWithin (c :: before) after rest

section
variable {before before' after rest rest' cs ds : List Char} {c d : Char}

@[simp] theorem lowerFrom_nil : lowerFrom before [] = [] :=
  rfl

@[simp] theorem lowerFrom_cons : lowerFrom before (c :: rest) = lowerAt before c rest ++ lowerFrom (c :: before) rest :=
  rfl

@[simp] theorem lowerWithin_nil : lowerWithin before after [] = [] :=
  rfl

@[simp] theorem lowerWithin_cons :
    lowerWithin before after (c :: rest) = lowerAt before c (rest ++ after) ++ lowerWithin (c :: before) after rest :=
  rfl

theorem lowerFrom_append (before cs after : List Char) :
    lowerFrom before (cs ++ after) = lowerWithin before after cs ++ lowerFrom (cs.reverse ++ before) after := by
  induction cs generalizing before with
  | nil => rfl
  | cons c cs ih => simp [ih]

/-! ## ASCII letters -/

def asciiRanges (ranges : List (Nat × Nat)) : List (Nat × Nat) :=
  ranges.filter (·.1 < 128)

theorem inRanges_of_ascii (ranges : List (Nat × Nat)) (hc : c.toNat < 128) :
    inRanges ranges c = inRanges (asciiRanges ranges) c := by
  unfold inRanges asciiRanges
  induction ranges with
  | nil => rfl
  | cons r ranges ih =>
    rw [List.any_cons, List.filter_cons, ih]
    by_cases hr : r.1 < 128
    · simp [hr]
    · have hlow : ¬ r.1 ≤ c.toNat := by omega
      simp [hr, hlow]

theorem of_toLower {α : Type} {f : Char → α} (h : ∀ n < 128, f (Char.ofNat n) = f (Char.ofNat n).toLower)
    (hcd : c.toLower = d.toLower) : f c = f d := by
  have hlower : ∀ c : Char, f c = f c.toLower := by
    intro c
    rcases Nat.lt_or_ge c.toNat 128 with hc | hc
    · exact of_ascii (P := fun c => f c = f c.toLower) h hc
    · rw [toLower_of_not_ascii hc]
  rw [hlower c, hlower d, hcd]

theorem inRanges_of_toLower {ranges : List (Nat × Nat)}
    (h : ∀ n < 128, inRanges (asciiRanges ranges) (Char.ofNat n) = inRanges (asciiRanges ranges) (Char.ofNat n).toLower)
    (hcd : c.toLower = d.toLower) : inRanges ranges c = inRanges ranges d := by
  refine of_toLower ?_ hcd
  intro n hn
  have hascii : ∀ n < 128, (Char.ofNat n).toNat < 128 ∧ (Char.ofNat n).toLower.toNat < 128 := by decide +kernel
  obtain ⟨hc, hlower⟩ := hascii n hn
  rw [inRanges_of_ascii ranges hc, inRanges_of_ascii ranges hlower]
  exact h n hn

theorem meetsCased_congr (h : cs.map Char.toLower = ds.map Char.toLower) : meetsCased cs = meetsCased ds := by
  induction cs generalizing ds with
  | nil =>
    have hds : ds = [] := by simpa using h
    rw [hds]
  | cons c cs ih =>
    cases ds with
    | nil => simp at h
    | cons d ds =>
      obtain ⟨hcd, hrest⟩ := List.cons_eq_cons.mp h
      have hcaseless : inRanges caselessRanges c = inRanges caselessRanges d :=
        inRanges_of_toLower (by decide +kernel) hcd
      have hcased : inRanges casedRanges c = inRanges casedRanges d := inRanges_of_toLower (by decide +kernel) hcd
      have hnext : meetsCased cs = meetsCased ds := ih hrest
      unfold meetsCased at hnext ⊢
      rw [List.dropWhile_cons, List.dropWhile_cons, hcaseless]
      by_cases hd : inRanges caselessRanges d = true
      · rw [if_pos hd, if_pos hd, hnext]
      · rw [if_neg hd, if_neg hd]
        exact hcased

theorem lowerAt_congr (hbefore : before.map Char.toLower = before'.map Char.toLower) (hcd : c.toLower = d.toLower)
    (hrest : rest.map Char.toLower = rest'.map Char.toLower) : lowerAt before c rest = lowerAt before' d rest' := by
  have hsigma : decide (c.toNat = 0x3A3) = decide (d.toNat = 0x3A3) :=
    of_toLower (f := fun c => decide (c.toNat = 0x3A3)) (by decide +kernel) hcd
  have hchar : lowerChar c = lowerChar d := of_toLower (by decide +kernel) hcd
  have hfinal : isFinal before rest = isFinal before' rest' := by
    rw [isFinal, isFinal, meetsCased_congr hbefore, meetsCased_congr hrest]
  unfold lowerAt
  rw [hfinal, hchar]
  by_cases hc : c.toNat = 0x3A3
  · have hd : d.toNat = 0x3A3 := by simpa [hc] using hsigma
    rw [if_pos hc, if_pos hd]
  · have hd : d.toNat ≠ 0x3A3 := by simpa [hc] using hsigma
    rw [if_neg hc, if_neg hd]

/-- Lower case makes no difference between texts that differ in the case of ASCII letters only. -/
theorem lowerFrom_congr (hbefore : before.map Char.toLower = before'.map Char.toLower)
    (h : cs.map Char.toLower = ds.map Char.toLower) : lowerFrom before cs = lowerFrom before' ds := by
  induction cs generalizing before before' ds with
  | nil =>
    have hds : ds = [] := by simpa using h
    rw [hds, lowerFrom_nil, lowerFrom_nil]
  | cons c cs ih =>
    cases ds with
    | nil => simp at h
    | cons d ds =>
      obtain ⟨hcd, hrest⟩ := List.cons_eq_cons.mp h
      have hnext : (c :: before).map Char.toLower = (d :: before').map Char.toLower := by simp [hcd, hbefore]
      rw [lowerFrom_cons, lowerFrom_cons, lowerAt_congr hbefore hcd hrest, ih hnext hrest]

/-! ## Capital sigmas -/

theorem lowerAt_eq_iff :
    lowerAt before c rest = lowerAt before' c rest' ↔ (c.toNat = 0x3A3 → isFinal before rest = isFinal before' rest') := by
  have hforms : Char.ofNat 0x3C2 ≠ Char.ofNat 0x3C3 := by decide
  unfold lowerAt
  by_cases hc : c.toNat = 0x3A3
  · cases isFinal before rest <;> cases isFinal before' rest' <;> simp [hc, hforms, hforms.symm]
  · simp [hc]

theorem length_lowerAt (before before' : List Char) (c : Char) (rest rest' : List Char) :
    (lowerAt before c rest).length = (lowerAt before' c rest').length := by
  unfold lowerAt
  split <;> rfl

/-- Every capital sigma of the text ends a word between `before` and `after` just if it does with `before'` in front
and nothing behind. -/
def SigmasAgree (before before' after cs : List Char) : Prop :=
  ∀ x c y, cs = x ++ c :: y → c.toNat = 0x3A3 →
    isFinal (x.reverse ++ before) (y ++ after) = isFinal (x.reverse ++ before') y

theorem sigmasAgree_nil : SigmasAgree before before' after [] := by
  intro x c y h
  simp at h

theorem sigmasAgree_cons : SigmasAgree before before' after (c :: cs) ↔
    (c.toNat = 0x3A3 → isFinal before (cs ++ after) = isFinal before' cs) ∧
      SigmasAgree (c :: before) (c :: before') after cs := by
  constructor
  · intro h
    refine ⟨h [] c cs rfl, ?_⟩
    intro x d y hcs hd
    have := h (c :: x) d y (by rw [hcs]; rfl) hd
    simpa using this
  · rintro ⟨hfirst, hothers⟩ x d y hcs hd
    cases x with
    | nil =>
      obtain ⟨rfl, rfl⟩ := List.cons_eq_cons.mp hcs
      exact hfirst hd
    | cons e x =>
      obtain ⟨rfl, hrest⟩ := List.cons_eq_cons.mp hcs
      have := hothers x d y hrest hd
      simpa using this

theorem lowerWithin_eq_iff : lowerWithin before after cs = lowerFrom before' cs ↔ SigmasAgree before before' after cs := by
  induction cs generalizing before before' with
  | nil => exact iff_of_true rfl sigmasAgree_nil
  | cons c cs ih =>
    rw [sigmasAgree_cons, ← ih, ← lowerAt_eq_iff, lowerWithin_cons, lowerFrom_cons]
    constructor
    · exact fun h => List.append_inj h (length_lowerAt ..)
    · rintro ⟨hfirst, hothers⟩
      rw [hfirst, hothers]

end

end DocStore.Text
