import DocStore.Proofs.Decimal.Places
import DocStore.Proofs.Query.Spacing
import DocStore.Time.Reading

/-!
# Figures

A number stands in a date as a figure: blanks, a sign if it is a year, and digits. Reading a number takes a figure of its
kind from the front of a text, and takes each one that is there (`takeStrict_eq_some_iff`, `takeLenient_text`). A lenient
figure goes on as long as there are digits for it, which only matters where the next thing may begin with a digit, too.
-/

namespace DocStore.Time

open Decimal (isDigit valueOf)
open Query (exists_trimLeft trimLeft_append)
open Text (isBlank trimLeft)

/-! ## Digits -/

def EndsDigits (cs : List Char) : Prop :=
  ∀ c ∈ cs.head?, isDigit c = false

section
variable {cs ds rest : List Char} {c : Char} {limit : Nat}

theorem endsDigits_nil : EndsDigits [] := by
  intro c h
  cases h

theorem endsDigits_cons (h : isDigit c = false) : EndsDigits (c :: rest) := by
  intro d hd
  cases hd
  exact h

theorem isBlank_of_isDigit (h : isDigit c = true) : isBlank c = false := by
  have hascii : c.toNat < 128 := Query.ascii_of_isAlphanum (by simp [Char.isAlphanum, show c.isDigit = true from h])
  exact Query.of_ascii (P := fun c => isDigit c = true → isBlank c = false) (by decide +kernel) hascii h

theorem takeWhile_digits (hds : ∀ d ∈ ds, isDigit d = true) (hrest : EndsDigits rest) :
    (ds ++ rest).takeWhile isDigit = ds := by
  have hstop : rest.takeWhile isDigit = [] := by
    cases rest with
    | nil => rfl
    | cons c rest => simp [hrest c rfl]
  rw [List.takeWhile_append_of_pos hds, hstop, List.append_nil]

theorem exists_digits (cs : List Char) : ∃ ds rest, (∀ d ∈ ds, isDigit d = true) ∧ EndsDigits rest ∧ cs = ds ++ rest := by
  refine ⟨cs.takeWhile isDigit, cs.dropWhile isDigit, fun d hd => List.mem_takeWhile_imp hd, ?_,
    List.takeWhile_append_dropWhile.symm⟩
  intro c hc
  have hstop := List.head?_dropWhile_not isDigit cs
  rw [Option.mem_def.mp hc] at hstop
  simpa using hstop

/-- A run of digits that is cut off at the limit, or ends before. -/
theorem leadingDigits_append (hds : ∀ d ∈ ds, isDigit d = true) (hlimit : ds.length ≤ limit)
    (hend : ds.length = limit ∨ EndsDigits rest) : leadingDigits limit (ds ++ rest) = (ds, rest) := by
  have htake : (ds ++ rest).take limit = ds ++ rest.take (limit - ds.length) := by
    rw [List.take_append, List.take_of_length_le hlimit]
  have hrest : EndsDigits (rest.take (limit - ds.length)) := by
    rcases hend with hfull | hend
    · rw [hfull, Nat.sub_self, List.take_zero]
      exact endsDigits_nil
    · intro c hc
      cases rest with
      | nil => simp at hc
      | cons d rest =>
        apply hend c
        by_cases hzero : limit - ds.length = 0
        · simp [hzero] at hc
        · rw [List.head?_take, if_neg hzero] at hc
          exact hc
  unfold leadingDigits
  rw [htake, takeWhile_digits hds hrest]
  simp

theorem exists_leadingDigits (limit : Nat) (cs : List Char) : ∃ ds rest, (∀ d ∈ ds, isDigit d = true) ∧ ds.length ≤ limit ∧
    (ds.length = limit ∨ EndsDigits rest) ∧ cs = ds ++ rest ∧ leadingDigits limit cs = (ds, rest) := by
  obtain ⟨all, rest, hall, hrest, rfl⟩ := exists_digits cs
  rcases Nat.lt_or_ge limit all.length with hlong | hshort
  · have hds : ∀ d ∈ all.take limit, isDigit d = true := fun d hd => hall d (List.mem_of_mem_take hd)
    have hlength : (all.take limit).length = limit := List.length_take_of_le (by omega)
    have hsplit : all ++ rest = all.take limit ++ (all.drop limit ++ rest) := by
      rw [← List.append_assoc, List.take_append_drop]
    refine ⟨all.take limit, all.drop limit ++ rest, hds, by omega, .inl hlength, hsplit, ?_⟩
    rw [hsplit]
    exact leadingDigits_append hds (by omega) (.inl hlength)
  · exact ⟨all, rest, hall, hshort, .inr hrest, rfl, leadingDigits_append hall hshort (.inr hrest)⟩

theorem trimLeft_blanks {g : List Char} (hg : ∀ c ∈ g, isBlank c = true) (hrest : ∀ c ∈ rest.head?, isBlank c = false) :
    trimLeft (g ++ rest) = rest := by
  have hnone : trimLeft g = [] := List.dropWhile_eq_nil_iff.mpr hg
  rw [trimLeft_append hrest, hnone, List.nil_append]

end

/-! ## Figures -/

def Field.Allows : Field → Int → Prop
  | .year, _ => True
  | .month, n => 1 ≤ n ∧ n ≤ 12
  | .day, n => 1 ≤ n ∧ n ≤ 31
  | .hour, n => 0 ≤ n ∧ n ≤ 23
  | .minute, n => 0 ≤ n ∧ n ≤ 59
  | .second, n => 0 ≤ n ∧ n ≤ 60

instance : (field : Field) → (n : Int) → Decidable (field.Allows n)
  | .year, _ => .isTrue trivial
  | .month, n => inferInstanceAs (Decidable (1 ≤ n ∧ n ≤ 12))
  | .day, n => inferInstanceAs (Decidable (1 ≤ n ∧ n ≤ 31))
  | .hour, n => inferInstanceAs (Decidable (0 ≤ n ∧ n ≤ 23))
  | .minute, n => inferInstanceAs (Decidable (0 ≤ n ∧ n ≤ 59))
  | .second, n => inferInstanceAs (Decidable (0 ≤ n ∧ n ≤ 60))

def Reading.set (r : Reading) : Field → Int → Reading
  | .year, n => { r with year := n }
  | .month, n => { r with month := n.toNat }
  | .day, n => { r with day := n.toNat }
  | .hour, n => { r with hour := n.toNat }
  | .minute, n => { r with minute := n.toNat }
  | .second, n => { r with second := n.toNat }

theorem put_eq_some_iff {r r' : Reading} {field : Field} {n : Int} :
    r.put field n = some r' ↔ field.Allows n ∧ r' = r.set field n := by
  cases field with
  | year => simp [Reading.put, Field.Allows, Reading.set, eq_comm]
  | _ =>
    unfold Reading.put Field.Allows Reading.set
    dsimp only
    split <;> simp_all [eq_comm]

structure Figure where
  blanks : List Char
  sign : List Char
  digits : List Char

namespace Figure

def text (f : Figure) : List Char :=
  f.blanks ++ (f.sign ++ f.digits)

def value (f : Figure) : Int :=
  if f.sign = ['-'] then -(valueOf f.digits : Int) else valueOf f.digits

structure Strict (field : Field) (f : Figure) : Prop where
  blanks : f.blanks = []
  sign : f.sign = []
  digits : ∀ d ∈ f.digits, isDigit d = true
  width : f.digits.length = field.width

/-- Blanks may stand in front, and digits may be missing. A year with a sign may have any number of them. -/
structure Lenient (field : Field) (f : Figure) : Prop where
  blanks : ∀ c ∈ f.blanks, isBlank c = true
  sign : f.sign = [] ∨ field = .year ∧ f.sign ∈ [['+'], ['-']]
  digits : ∀ d ∈ f.digits, isDigit d = true
  ne_nil : f.digits ≠ []
  width : f.sign = [] → f.digits.length ≤ field.width

def Fits (strict : Bool) (field : Field) (f : Figure) : Prop :=
  (if strict then f.Strict field else f.Lenient field) ∧ field.Allows f.value

def Ends (field : Field) (f : Figure) (rest : List Char) : Prop :=
  f.sign = [] ∧ f.digits.length = field.width ∨ EndsDigits rest

end Figure

section
variable {cs rest : List Char} {field : Field} {f : Figure} {v : Int} {strict : Bool} {r r' : Reading} {q : Pattern}

theorem Figure.Strict.lenient (h : f.Strict field) : f.Lenient field where
  blanks := by simp [h.blanks]
  sign := .inl h.sign
  digits := h.digits
  ne_nil := by
    intro hnil
    have := h.width
    cases field <;> simp [hnil, Field.width] at this
  width := fun _ => Nat.le_of_eq h.width

theorem Figure.Strict.ends (h : f.Strict field) (rest : List Char) : f.Ends field rest :=
  .inl ⟨h.sign, h.width⟩

theorem Figure.Fits.lenient (h : f.Fits strict field) : f.Fits false field := by
  cases strict with
  | false => exact h
  | true => exact ⟨h.1.lenient, h.2⟩

theorem takeStrict_eq_some_iff : takeStrict field cs = some (v, rest) ↔
    ∃ f : Figure, f.Strict field ∧ cs = f.text ++ rest ∧ v = f.value := by
  constructor
  · intro h
    obtain ⟨ds, rest', hds, -, -, rfl, hread⟩ := exists_leadingDigits field.width cs
    unfold takeStrict at h
    rw [hread] at h
    dsimp only at h
    split at h
    · rename_i hwidth
      cases h
      exact ⟨⟨[], [], ds⟩, ⟨rfl, rfl, hds, hwidth⟩, rfl, rfl⟩
    · cases h
  · rintro ⟨⟨blanks, sign, ds⟩, ⟨rfl, rfl, hds, hwidth⟩, rfl, rfl⟩
    dsimp only at hds hwidth
    have hread : leadingDigits field.width (ds ++ rest) = (ds, rest) :=
      leadingDigits_append hds (Nat.le_of_eq hwidth) (.inl hwidth)
    unfold takeStrict
    rw [Figure.text, List.nil_append, List.nil_append, hread]
    simp [hwidth, Figure.value]

theorem Figure.Lenient.head (h : f.Lenient field) :
    ∀ c ∈ (f.sign ++ (f.digits ++ rest)).head?, isBlank c = false ∧ (f.sign = [] → isDigit c = true) := by
  obtain ⟨d, ds, hds⟩ := List.exists_cons_of_ne_nil h.ne_nil
  have hd : isDigit d = true := h.digits d (by simp [hds])
  intro c hc
  rcases h.sign with hsign | ⟨-, hsign⟩
  · rw [hsign, hds] at hc
    cases hc
    exact ⟨isBlank_of_isDigit hd, fun _ => hd⟩
  · simp only [List.mem_cons, List.not_mem_nil, or_false] at hsign
    rcases hsign with hsign | hsign
    all_goals
      rw [hsign] at hc ⊢
      cases hc
      exact ⟨by decide, by simp⟩

theorem takeLenient_text (h : f.Lenient field) (hend : f.Ends field rest) :
    takeLenient field (f.text ++ rest) = some (f.value, rest) := by
  have htrim : trimLeft (f.text ++ rest) = f.sign ++ (f.digits ++ rest) := by
    rw [Figure.text, List.append_assoc, List.append_assoc]
    exact trimLeft_blanks h.blanks fun c hc => (h.head c hc).1
  have hrun : f.sign ≠ [] → (f.digits ++ rest).takeWhile isDigit = f.digits := by
    intro hsign
    rcases hend with ⟨hnone, -⟩ | hend
    · exact absurd hnone hsign
    · exact takeWhile_digits h.digits hend
  unfold takeLenient
  dsimp only
  rw [htrim]
  rcases h.sign with hsign | ⟨rfl, hsign⟩
  · have hread : leadingDigits field.width (f.digits ++ rest) = (f.digits, rest) := by
      refine leadingDigits_append h.digits (h.width hsign) ?_
      exact hend.imp_left fun hfull => hfull.2
    have hfirst : ∀ c ∈ (f.sign ++ (f.digits ++ rest)).head?, isDigit c = true := fun c hc => (h.head c hc).2 hsign
    rw [hsign, List.nil_append] at hfirst ⊢
    split
    · rename_i hcs
      rw [hcs] at hfirst
      exact absurd (hfirst '-' rfl) (by decide)
    · rename_i hcs
      rw [hcs] at hfirst
      exact absurd (hfirst '+' rfl) (by decide)
    · simp [hread, h.ne_nil, Figure.value, hsign]
  · simp only [List.mem_cons, List.not_mem_nil, or_false] at hsign
    rcases hsign with hsign | hsign
    · simp [hsign, hrun (by simp [hsign]), h.ne_nil, Figure.value]
    · simp [hsign, hrun (by simp [hsign]), h.ne_nil, Figure.value]

theorem exists_signed {sign signed : List Char} (hsign : sign ∈ [['+'], ['-']]) (hcs : trimLeft cs = sign ++ signed)
    (hne : signed.takeWhile isDigit ≠ []) :
    ∃ f : Figure, f.Lenient .year ∧ f.Ends .year (signed.drop (signed.takeWhile isDigit).length) ∧
      cs = f.text ++ signed.drop (signed.takeWhile isDigit).length ∧ f.sign = sign ∧
      f.digits = signed.takeWhile isDigit := by
  obtain ⟨g, hg, hblanks, -⟩ := exists_trimLeft cs
  obtain ⟨ds, rest, hds, hend, rfl⟩ := exists_digits signed
  rw [takeWhile_digits hds hend] at hne ⊢
  rw [List.drop_left]
  refine ⟨⟨g, sign, ds⟩, ⟨hg, .inr ⟨rfl, hsign⟩, hds, hne, ?_⟩, .inr hend, ?_, rfl, rfl⟩
  · rintro rfl
    simp at hsign
  · rw [hblanks, hcs]
    simp [Figure.text]

theorem exists_of_takeLenient (h : takeLenient field cs = some (v, rest)) :
    ∃ f : Figure, f.Lenient field ∧ f.Ends field rest ∧ cs = f.text ++ rest ∧ v = f.value := by
  unfold takeLenient at h
  dsimp only at h
  split at h
  · rename_i signed htrim
    split at h
    · cases h
    · rename_i hne
      cases h
      obtain ⟨f, hf, hend, hcs, hsign, hdigits⟩ := exists_signed (by simp) (htrim.trans List.singleton_append.symm) hne
      refine ⟨f, hf, hend, hcs, ?_⟩
      simp [Figure.value, hsign, hdigits]
  · rename_i signed htrim
    split at h
    · cases h
    · rename_i hne
      cases h
      obtain ⟨f, hf, hend, hcs, hsign, hdigits⟩ := exists_signed (by simp) (htrim.trans List.singleton_append.symm) hne
      refine ⟨f, hf, hend, hcs, ?_⟩
      simp [Figure.value, hsign, hdigits]
  · rename_i field _ _ _ _
    obtain ⟨g, hg, hblanks, -⟩ := exists_trimLeft cs
    obtain ⟨ds, rest', hds, hwidth, hend, htrim, hread⟩ := exists_leadingDigits field.width (trimLeft cs)
    rw [hread] at h
    dsimp only at h
    split at h
    · cases h
    · rename_i hne
      cases h
      refine ⟨⟨g, [], ds⟩, ⟨hg, .inl rfl, hds, hne, fun _ => hwidth⟩, hend.imp_left fun hfull => ⟨rfl, hfull⟩, ?_, rfl⟩
      rw [hblanks, htrim]
      simp [Figure.text]

end

end DocStore.Time
