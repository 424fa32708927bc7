import DocStore.Proofs.Time.Figures

/-!
# Parts of a pattern

What the parts of a pattern take from the front of a text is written with figures, marks, fractions and zones of their kind,
and they take whatever is written so. Each lemma says it for a part at the front of a pattern, so that a pattern is opened
part by part.
-/

namespace DocStore.Time

open Decimal (isDigit valueOf)
open Query (exists_trimLeft)
open Text (isBlank trimLeft)

/-! ## Zones -/

structure TwoDigits (greatest : Nat) (ds : List Char) : Prop where
  digits : ∀ d ∈ ds, isDigit d = true
  length : ds.length = 2
  le : valueOf ds ≤ greatest

/-- The signs of an offset; the last one is the minus of typography. -/
def signs : List Char :=
  ['+', '-', Char.ofNat 0x2212]

inductive Zone where
  | letter (blanks : List Char) (c : Char)
  | offset (blanks : List Char) (sign : Char) (hours mark minutes : List Char)

namespace Zone

def text : Zone → List Char
  | letter blanks c => blanks ++ [c]
  | offset blanks sign hours mark minutes => blanks ++ sign :: (hours ++ (mark ++ minutes))

def east : Zone → Int
  | letter _ _ => 0
  | offset _ sign hours _ minutes => (if sign = '+' then 1 else -1) * (valueOf hours * 60 + valueOf minutes : Nat)

/-- What stands between the hours and the minutes: a colon, or for a lenient part any row of colons and blanks. -/
def IsMark (strict : Bool) (mark : List Char) : Prop :=
  if strict then mark = [':'] else ∀ c ∈ mark, c = ':' ∨ isBlank c = true

def Fits (strict : Bool) : Zone → Prop
  | letter blanks c => strict = true ∧ blanks = [] ∧ (c = 'Z' ∨ c = 'z')
  | offset blanks sign hours mark minutes =>
    (∀ c ∈ blanks, isBlank c = true) ∧ (strict = true → blanks = []) ∧ sign ∈ signs ∧ TwoDigits 23 hours ∧
      IsMark strict mark ∧ TwoDigits 59 minutes

end Zone

section
variable {cs rest : List Char} {strict : Bool} {n : Nat} {v : Int}

theorem takeTwoDigits_eq_some_iff : takeTwoDigits cs = some (n, rest) ↔
    ∃ ds, (∀ d ∈ ds, isDigit d = true) ∧ ds.length = 2 ∧ cs = ds ++ rest ∧ n = valueOf ds := by
  constructor
  · intro h
    obtain ⟨ds, rest', hds, -, -, rfl, hread⟩ := exists_leadingDigits 2 cs
    unfold takeTwoDigits at h
    rw [hread] at h
    dsimp only at h
    split at h
    · rename_i hlength
      cases h
      exact ⟨ds, hds, hlength, rfl, rfl⟩
    · cases h
  · rintro ⟨ds, hds, hlength, rfl, rfl⟩
    have hread : leadingDigits 2 (ds ++ rest) = (ds, rest) := leadingDigits_append hds (Nat.le_of_eq hlength) (.inl hlength)
    unfold takeTwoDigits
    rw [hread]
    simp [hlength]

theorem takeSign_eq_some_iff : takeSign cs = some (v, rest) ↔
    ∃ c ∈ signs, cs = c :: rest ∧ v = if c = '+' then 1 else -1 := by
  have hminus : ∀ c : Char, c.toNat = 0x2212 ↔ c = Char.ofNat 0x2212 := by
    intro c
    constructor
    · intro h
      rw [← h, Char.ofNat_toNat]
    · rintro rfl
      decide
  cases cs with
  | nil => simp [takeSign]
  | cons c cs =>
    unfold takeSign
    simp only [hminus]
    by_cases hplus : c = '+'
    · simp only [hplus, if_true, Option.some.injEq, Prod.mk.injEq, List.cons.injEq]
      constructor
      · rintro ⟨rfl, rfl⟩
        exact ⟨'+', by decide, ⟨rfl, rfl⟩, rfl⟩
      · rintro ⟨_, -, ⟨rfl, rfl⟩, rfl⟩
        exact ⟨rfl, rfl⟩
    · simp [hplus, signs]
      grind

theorem skipOffsetMark_eq_some_iff (hdigit : ∃ c ∈ rest.head?, isDigit c = true) :
    skipOffsetMark strict cs = some rest ↔ ∃ mark, Zone.IsMark strict mark ∧ cs = mark ++ rest := by
  unfold skipOffsetMark Zone.IsMark
  cases strict with
  | true =>
    simp only [if_true]
    constructor
    · intro h
      split at h
      · cases h
        exact ⟨[':'], rfl, rfl⟩
      · cases h
    · rintro ⟨_, rfl, rfl⟩
      rfl
  | false =>
    simp only [Bool.false_eq_true, if_false, Option.some.injEq]
    constructor
    · rintro rfl
      refine ⟨_, ?_, (List.takeWhile_append_dropWhile (p := fun c => decide (c = ':') || isBlank c)).symm⟩
      intro c hc
      simpa using List.mem_takeWhile_imp hc
    · rintro ⟨mark, hmark, rfl⟩
      obtain ⟨c, hc, hdigit⟩ := hdigit
      obtain ⟨rest, rfl⟩ := List.head?_eq_some_iff.mp hc
      have hmarks : ∀ c ∈ mark, (decide (c = ':') || isBlank c) = true := by simpa using hmark
      have hcolon : c ≠ ':' := by
        rintro rfl
        revert hdigit
        decide
      rw [List.dropWhile_append_of_pos hmarks]
      simp [hcolon, isBlank_of_isDigit hdigit]

theorem TwoDigits.head {greatest : Nat} {ds : List Char} (h : TwoDigits greatest ds) (rest : List Char) :
    ∃ c ∈ (ds ++ rest).head?, isDigit c = true := by
  cases ds with
  | nil => exact absurd h.length (by decide)
  | cons d ds => exact ⟨d, rfl, h.digits d List.mem_cons_self⟩

theorem takeHoursMinutes_eq_some_iff : takeHoursMinutes strict cs = some (v, rest) ↔
    ∃ sign hours mark minutes, sign ∈ signs ∧ TwoDigits 23 hours ∧ Zone.IsMark strict mark ∧ TwoDigits 59 minutes ∧
      cs = sign :: (hours ++ (mark ++ (minutes ++ rest))) ∧ v = (Zone.offset [] sign hours mark minutes).east := by
  unfold takeHoursMinutes
  constructor
  · intro h
    simp only [Option.bind_eq_bind, Option.bind_eq_some_iff, Prod.exists] at h
    obtain ⟨s, cs₁, hsign, n, cs₂, hhours, cs₃, hmark, m, cs₄, hminutes, h⟩ := h
    obtain ⟨sign, hmem, rfl, rfl⟩ := takeSign_eq_some_iff.mp hsign
    obtain ⟨hours, hdigits, hlength, rfl, rfl⟩ := takeTwoDigits_eq_some_iff.mp hhours
    obtain ⟨minutes, hdigits', hlength', rfl, rfl⟩ := takeTwoDigits_eq_some_iff.mp hminutes
    split at h
    · rename_i hle
      cases h
      have hminutes : TwoDigits 59 minutes := ⟨hdigits', hlength', hle.2⟩
      obtain ⟨mark, hisMark, rfl⟩ := (skipOffsetMark_eq_some_iff (hminutes.head rest)).mp hmark
      exact ⟨sign, hours, mark, minutes, hmem, ⟨hdigits, hlength, hle.1⟩, hisMark, hminutes, rfl, rfl⟩
    · cases h
  · rintro ⟨sign, hours, mark, minutes, hmem, hhours, hmark, hminutes, rfl, rfl⟩
    have hsign : takeSign (sign :: (hours ++ (mark ++ (minutes ++ rest)))) = some (if sign = '+' then 1 else -1, _) :=
      takeSign_eq_some_iff.mpr ⟨sign, hmem, rfl, rfl⟩
    have htwo : ∀ {greatest : Nat} {ds : List Char}, TwoDigits greatest ds → ∀ rest,
        takeTwoDigits (ds ++ rest) = some (valueOf ds, rest) :=
      fun h rest => takeTwoDigits_eq_some_iff.mpr ⟨_, h.digits, h.length, rfl, rfl⟩
    have hskip := (skipOffsetMark_eq_some_iff (hminutes.head rest)).mpr ⟨mark, hmark, rfl⟩
    rw [hsign]
    simp only [Option.bind_eq_bind, Option.bind_some, htwo hhours, hskip, htwo hminutes]
    rw [if_pos ⟨hhours.le, hminutes.le⟩]
    rfl

theorem takeOffset_eq_some_iff : takeOffset strict cs = some (v, rest) ↔
    ∃ z : Zone, z.Fits strict ∧ cs = z.text ++ rest ∧ v = z.east := by
  unfold takeOffset
  cases strict with
  | true =>
    simp only [if_true]
    constructor
    · intro h
      split at h
      · cases h
      split at h
      · rename_i c cs hletter
        cases h
        exact ⟨.letter [] c, ⟨rfl, rfl, hletter⟩, rfl, rfl⟩
      · obtain ⟨sign, hours, mark, minutes, hsign, hhours, hmark, hminutes, hcs, hv⟩ := takeHoursMinutes_eq_some_iff.mp h
        refine ⟨.offset [] sign hours mark minutes, ⟨by simp, fun _ => rfl, hsign, hhours, hmark, hminutes⟩, ?_, hv⟩
        rw [hcs]
        simp [Zone.text]
    · rintro ⟨z, hz, rfl, rfl⟩
      cases z with
      | letter blanks c =>
        obtain ⟨-, rfl, hletter⟩ := hz
        simp [Zone.text, Zone.east, hletter]
      | offset blanks sign hours mark minutes =>
        obtain ⟨-, hblanks, hsign, hhours, hmark, hminutes⟩ := hz
        obtain rfl := hblanks rfl
        have hletter : ∀ sign ∈ signs, ¬(sign = 'Z' ∨ sign = 'z') := by decide
        simp only [Zone.text, List.nil_append, List.cons_append, List.append_assoc]
        rw [if_neg (hletter sign hsign)]
        exact takeHoursMinutes_eq_some_iff.mpr ⟨sign, hours, mark, minutes, hsign, hhours, hmark, hminutes, rfl, rfl⟩
  | false =>
    simp only [Bool.false_eq_true, if_false]
    constructor
    · intro h
      obtain ⟨blanks, hblanks, hcs, -⟩ := exists_trimLeft cs
      obtain ⟨sign, hours, mark, minutes, hsign, hhours, hmark, hminutes, htrim, hv⟩ := takeHoursMinutes_eq_some_iff.mp h
      refine ⟨.offset blanks sign hours mark minutes, ⟨hblanks, by simp, hsign, hhours, hmark, hminutes⟩, ?_, hv⟩
      rw [hcs, htrim]
      simp [Zone.text]
    · rintro ⟨z, hz, rfl, rfl⟩
      cases z with
      | letter blanks c => exact absurd hz.1 (by decide)
      | offset blanks sign hours mark minutes =>
        obtain ⟨hblanks, -, hsign, hhours, hmark, hminutes⟩ := hz
        have hfirst : ∀ sign ∈ signs, isBlank sign = false := by decide
        have htrim : trimLeft ((Zone.offset blanks sign hours mark minutes).text ++ rest) =
            sign :: (hours ++ (mark ++ (minutes ++ rest))) := by
          simp only [Zone.text, List.append_assoc, List.cons_append]
          refine trimLeft_blanks hblanks ?_
          intro c hc
          cases hc
          exact hfirst sign hsign
        rw [htrim]
        exact takeHoursMinutes_eq_some_iff.mpr ⟨sign, hours, mark, minutes, hsign, hhours, hmark, hminutes, rfl, rfl⟩

end

/-! ## Fractions -/

def fractionText (ds : List Char) : List Char :=
  if ds = [] then [] else '.' :: ds

def EndsFraction (ds rest : List Char) : Prop :=
  if ds = [] then ∀ c ∈ rest.head?, c ≠ '.' else EndsDigits rest

section
variable {cs ds rest : List Char} {n : Nat}

theorem takeFraction_text (hds : ∀ d ∈ ds, isDigit d = true) (hend : EndsFraction ds rest) :
    takeFraction (fractionText ds ++ rest) = some (nanosOf ds, rest) := by
  unfold fractionText EndsFraction at *
  by_cases hnil : ds = []
  · subst hnil
    simp only [if_true, List.nil_append] at hend ⊢
    unfold takeFraction
    split
    · exact absurd rfl (hend '.' rfl)
    · rfl
  · rw [if_neg hnil] at hend ⊢
    simp [takeFraction, takeWhile_digits hds hend, hnil]

theorem takeFraction_eq_some_iff : takeFraction cs = some (n, rest) ↔
    ∃ ds, (∀ d ∈ ds, isDigit d = true) ∧ EndsFraction ds rest ∧ cs = fractionText ds ++ rest ∧ n = nanosOf ds := by
  constructor
  · intro h
    unfold takeFraction at h
    split at h
    · rename_i cs
      obtain ⟨ds, rest', hds, hend, rfl⟩ := exists_digits cs
      rw [takeWhile_digits hds hend] at h
      dsimp only at h
      split at h
      · cases h
      · rename_i hne
        cases h
        rw [List.drop_left]
        refine ⟨ds, hds, ?_, ?_, rfl⟩
        · rw [EndsFraction, if_neg hne]
          exact hend
        · rw [fractionText, if_neg hne]
          rfl
    · rename_i hpoint
      cases h
      refine ⟨[], by simp, ?_, rfl, rfl⟩
      rw [EndsFraction, if_pos rfl]
      rintro c hc rfl
      obtain ⟨tail, htail⟩ := List.head?_eq_some_iff.mp hc
      exact hpoint tail htail
  · rintro ⟨ds, hds, hend, rfl, rfl⟩
    exact takeFraction_text hds hend

end

/-! ## Parts in front of a pattern -/

section
variable {cs rest : List Char} {r r' : Reading} {q : Pattern} {strict : Bool} {field : Field}

theorem read_cons {part : Part} : Pattern.read (part :: q) r cs = some r' ↔
    ∃ r₁ rest, part.read r cs = some (r₁, rest) ∧ Pattern.read q r₁ rest = some r' := by
  cases cs <;> simp [Pattern.read, Option.bind_eq_some_iff]

theorem read_nil : Pattern.read [] r cs = some r' ↔ cs = [] ∧ r' = r := by
  cases cs <;> simp [Pattern.read, eq_comm]

theorem read_number : (Part.number field strict).read r cs = some (r', rest) ↔
    ∃ f : Figure, f.Fits strict field ∧ f.Ends field rest ∧ cs = f.text ++ rest ∧ r' = r.set field f.value := by
  constructor
  · intro h
    cases strict with
    | true =>
      simp only [Part.read, if_true, Option.bind_eq_bind, Option.bind_eq_some_iff, Prod.exists] at h
      obtain ⟨v, rest', htake, r₂, hput, heq⟩ := h
      cases heq
      obtain ⟨hallows, rfl⟩ := put_eq_some_iff.mp hput
      obtain ⟨f, hf, hcs, rfl⟩ := takeStrict_eq_some_iff.mp htake
      exact ⟨f, ⟨hf, hallows⟩, hf.ends rest, hcs, rfl⟩
    | false =>
      simp only [Part.read, Bool.false_eq_true, if_false, Option.bind_eq_bind, Option.bind_eq_some_iff, Prod.exists] at h
      obtain ⟨v, rest', htake, r₂, hput, heq⟩ := h
      cases heq
      obtain ⟨hallows, rfl⟩ := put_eq_some_iff.mp hput
      obtain ⟨f, hf, hend, hcs, rfl⟩ := exists_of_takeLenient htake
      exact ⟨f, ⟨hf, hallows⟩, hend, hcs, rfl⟩
  · rintro ⟨f, ⟨hf, hallows⟩, hend, rfl, rfl⟩
    have hput : r.put field f.value = some (r.set field f.value) := put_eq_some_iff.mpr ⟨hallows, rfl⟩
    cases strict with
    | true =>
      have htake : takeStrict field (f.text ++ rest) = some (f.value, rest) := takeStrict_eq_some_iff.mpr ⟨f, hf, rfl, rfl⟩
      simp [Part.read, htake, hput]
    | false =>
      have htake : takeLenient field (f.text ++ rest) = some (f.value, rest) := takeLenient_text hf hend
      simp [Part.read, htake, hput]

theorem read_number_cons : Pattern.read (.number field strict :: q) r cs = some r' ↔
    ∃ (f : Figure) (rest : List Char), f.Fits strict field ∧ f.Ends field rest ∧ cs = f.text ++ rest ∧
      Pattern.read q (r.set field f.value) rest = some r' := by
  simp only [read_cons, read_number]
  constructor
  · rintro ⟨r₁, rest, ⟨f, hf, hend, rfl, rfl⟩, hrest⟩
    exact ⟨f, rest, hf, hend, rfl, hrest⟩
  · rintro ⟨f, rest, hf, hend, rfl, hrest⟩
    exact ⟨_, rest, ⟨f, hf, hend, rfl, rfl⟩, hrest⟩

theorem read_mark_cons {allowed : List Char} : Pattern.read (.mark allowed :: q) r cs = some r' ↔
    ∃ c ∈ allowed, ∃ rest, cs = c :: rest ∧ Pattern.read q r rest = some r' := by
  rw [read_cons]
  cases cs with
  | nil => simp [Part.read]
  | cons c cs => simp [Part.read]

theorem read_gap_cons : Pattern.read (.gap :: q) r cs = some r' ↔ Pattern.read q r (trimLeft cs) = some r' := by
  rw [read_cons]
  simp [Part.read]

theorem read_fraction_cons : Pattern.read (.fraction :: q) r cs = some r' ↔
    ∃ ds rest, (∀ d ∈ ds, isDigit d = true) ∧ EndsFraction ds rest ∧ cs = fractionText ds ++ rest ∧
      Pattern.read q { r with nanos := nanosOf ds } rest = some r' := by
  simp only [read_cons, Part.read, Option.map_eq_some_iff, Prod.exists, takeFraction_eq_some_iff]
  constructor
  · rintro ⟨r₁, rest, ⟨n, rest', ⟨ds, hds, hend, rfl, rfl⟩, heq⟩, hrest⟩
    cases heq
    exact ⟨ds, rest, hds, hend, rfl, hrest⟩
  · rintro ⟨ds, rest, hds, hend, rfl, hrest⟩
    exact ⟨_, rest, ⟨_, rest, ⟨ds, hds, hend, rfl, rfl⟩, rfl⟩, hrest⟩

theorem read_zone : Pattern.read [.offset strict] r cs = some r' ↔
    ∃ z : Zone, z.Fits strict ∧ cs = z.text ∧ r' = { r with offset := some z.east } := by
  simp only [read_cons, Part.read, Option.map_eq_some_iff, Prod.exists, takeOffset_eq_some_iff, read_nil]
  constructor
  · rintro ⟨r₁, rest, ⟨v, rest', ⟨z, hz, rfl, rfl⟩, heq⟩, rfl, rfl⟩
    cases heq
    exact ⟨z, hz, List.append_nil _, rfl⟩
  · rintro ⟨z, hz, rfl, rfl⟩
    exact ⟨_, [], ⟨_, [], ⟨z, hz, (List.append_nil _).symm, rfl⟩, rfl⟩, rfl, rfl⟩

end

end DocStore.Time
