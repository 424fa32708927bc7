import DocStore.Proofs.Time.Parts

/-!
# Written timestamps

A form is a timestamp piece by piece as it is written: the figures of the date, then perhaps a mark, a clock and a zone.
The lenient patterns together read exactly the texts of lenient forms (`exists_lenient_iff`), and they never read one
text in two ways, since its forms all show the same (`reading_unique`). The strict internet pattern reads the strict forms
(`read_internet`).
-/

namespace DocStore.Time

open Decimal (isDigit)
open Query (exists_trimLeft)
open Text (isBlank trimLeft)

structure DateForm where
  year : Figure
  month : Figure
  day : Figure

/-- A second comes with the digits of its fraction. -/
structure ClockForm where
  hour : Figure
  minute : Figure
  second? : Option (Figure × List Char)

structure TimeForm where
  mark : List Char
  clock : ClockForm
  zone? : Option Zone

structure Form where
  date : DateForm
  time? : Option TimeForm

/-! ## Dates -/

namespace DateForm

def text (d : DateForm) : List Char :=
  d.year.text ++ '-' :: (d.month.text ++ '-' :: d.day.text)

def put (d : DateForm) (r : Reading) : Reading :=
  ((r.set .year d.year.value).set .month d.month.value).set .day d.day.value

structure Fits (strict : Bool) (d : DateForm) : Prop where
  year : d.year.Fits strict .year
  month : d.month.Fits strict .month
  day : d.day.Fits strict .day

end DateForm

section
variable {cs rest : List Char} {r r' : Reading} {q : Pattern} {strict : Bool}

theorem ends_of_cons {field : Field} {f : Figure} {c : Char} (h : isDigit c = false) : f.Ends field (c :: rest) :=
  .inr (endsDigits_cons h)

theorem read_date : Pattern.read (Pattern.date strict ++ q) r cs = some r' ↔
    ∃ (d : DateForm) (rest : List Char), d.Fits strict ∧ d.day.Ends .day rest ∧ cs = d.text ++ rest ∧
      Pattern.read q (d.put r) rest = some r' := by
  simp only [Pattern.date, List.cons_append, List.nil_append, read_number_cons, read_mark_cons, List.mem_singleton]
  constructor
  · rintro ⟨year, _, hyear, -, rfl, _, rfl, _, rfl, month, _, hmonth, -, rfl, _, rfl, _, rfl, day, rest, hday, hend, rfl, h⟩
    refine ⟨⟨year, month, day⟩, rest, ⟨hyear, hmonth, hday⟩, hend, ?_, h⟩
    simp [DateForm.text]
  · rintro ⟨⟨year, month, day⟩, rest, ⟨hyear, hmonth, hday⟩, hend, rfl, h⟩
    refine ⟨year, _, hyear, ends_of_cons (by decide), ?_, _, rfl, _, rfl, month, _, hmonth, ends_of_cons (by decide), rfl, _,
      rfl, _, rfl, day, rest, hday, hend, rfl, h⟩
    simp [DateForm.text]

end

/-! ## Clocks -/

namespace ClockForm

def secondText : Option (Figure × List Char) → List Char
  | none => []
  | some (f, ds) => ':' :: (f.text ++ fractionText ds)

def text (c : ClockForm) : List Char :=
  c.hour.text ++ ':' :: (c.minute.text ++ secondText c.second?)

def putSecond (r : Reading) : Option (Figure × List Char) → Reading
  | none => r
  | some (f, ds) => { r.set .second f.value with nanos := nanosOf ds }

def put (c : ClockForm) (r : Reading) : Reading :=
  putSecond ((r.set .hour c.hour.value).set .minute c.minute.value) c.second?

structure Fits (strict : Bool) (c : ClockForm) : Prop where
  hour : c.hour.Fits strict .hour
  minute : c.minute.Fits strict .minute
  second : ∀ p ∈ c.second?, p.1.Fits strict .second ∧ ∀ d ∈ p.2, isDigit d = true

def EndsSecond : Option (Figure × List Char) → List Char → Prop
  | none, _ => True
  | some (f, ds), rest => if ds = [] then f.Ends .second rest else EndsDigits rest

theorem endsSecond_some {f : Figure} {ds rest : List Char} :
    EndsSecond (some (f, ds)) rest = if ds = [] then f.Ends .second rest else EndsDigits rest :=
  rfl

end ClockForm

def Pattern.seconds : List Pattern :=
  [[], [.mark [':'], .number .second false], [.mark [':'], .number .second false, .fraction]]

section
variable {cs rest : List Char} {r r' : Reading} {q : Pattern} {strict : Bool}

theorem ends_fractionText {f : Figure} {field : Field} {ds : List Char}
    (h : if ds = [] then f.Ends field rest else EndsDigits rest) : f.Ends field (fractionText ds ++ rest) := by
  unfold fractionText
  by_cases hds : ds = []
  · rw [if_pos hds] at h ⊢
    exact h
  · rw [if_neg hds]
    exact ends_of_cons (by decide)

theorem read_hourMinute : Pattern.read (Pattern.hourMinute strict ++ q) r cs = some r' ↔
    ∃ (hour minute : Figure) (rest : List Char), hour.Fits strict .hour ∧ minute.Fits strict .minute ∧
      minute.Ends .minute rest ∧ cs = hour.text ++ ':' :: (minute.text ++ rest) ∧
      Pattern.read q ((r.set .hour hour.value).set .minute minute.value) rest = some r' := by
  simp only [Pattern.hourMinute, List.cons_append, List.nil_append, read_number_cons, read_mark_cons, List.mem_singleton]
  constructor
  · rintro ⟨hour, _, hhour, -, rfl, _, rfl, _, rfl, minute, rest, hminute, hend, rfl, h⟩
    exact ⟨hour, minute, rest, hhour, hminute, hend, rfl, h⟩
  · rintro ⟨hour, minute, rest, hhour, hminute, hend, rfl, h⟩
    exact ⟨hour, _, hhour, ends_of_cons (by decide), rfl, _, rfl, _, rfl, minute, rest, hminute, hend, rfl, h⟩

theorem read_second_cons : Pattern.read (.mark [':'] :: .number .second strict :: q) r cs = some r' ↔
    ∃ (f : Figure) (rest : List Char), f.Fits strict .second ∧ f.Ends .second rest ∧ cs = ':' :: (f.text ++ rest) ∧
      Pattern.read q (r.set .second f.value) rest = some r' := by
  simp only [read_number_cons, read_mark_cons, List.mem_singleton]
  constructor
  · rintro ⟨_, rfl, _, rfl, f, rest, hf, hend, rfl, h⟩
    exact ⟨f, rest, hf, hend, rfl, h⟩
  · rintro ⟨f, rest, hf, hend, rfl, h⟩
    exact ⟨_, rfl, _, rfl, f, rest, hf, hend, rfl, h⟩

theorem exists_seconds (hr : r.nanos = 0) : (∃ s ∈ Pattern.seconds, Pattern.read (s ++ q) r cs = some r') ↔
    ∃ (second? : Option (Figure × List Char)) (rest : List Char),
      (∀ p ∈ second?, p.1.Fits false .second ∧ ∀ d ∈ p.2, isDigit d = true) ∧ ClockForm.EndsSecond second? rest ∧
      cs = ClockForm.secondText second? ++ rest ∧ Pattern.read q (ClockForm.putSecond r second?) rest = some r' := by
  have hwhole : ∀ f : Figure, ClockForm.putSecond r (some (f, [])) = r.set .second f.value := by
    intro f
    have hnanos : (r.set .second f.value).nanos = nanosOf [] := hr
    rw [ClockForm.putSecond, ← hnanos]
  constructor
  · rintro ⟨s, hs, h⟩
    simp only [Pattern.seconds, List.mem_cons, List.not_mem_nil, or_false] at hs
    rcases hs with rfl | rfl | rfl
    · exact ⟨none, cs, nofun, trivial, rfl, h⟩
    · obtain ⟨f, rest, hf, hend, hcs, hrest⟩ := read_second_cons.mp h
      refine ⟨some (f, []), rest, ?_, hend, ?_, ?_⟩
      · rintro _ ⟨⟩
        exact ⟨hf, nofun⟩
      · rw [hcs]
        simp [ClockForm.secondText, fractionText]
      · rw [hwhole]
        exact hrest
    · obtain ⟨f, rest, hf, hend, hcs, hrest⟩ := read_second_cons.mp h
      obtain ⟨ds, rest', hds, hend', hcs', hrest'⟩ := read_fraction_cons.mp hrest
      refine ⟨some (f, ds), rest', ?_, ?_, ?_, hrest'⟩
      · rintro _ ⟨⟩
        exact ⟨hf, hds⟩
      · rw [ClockForm.endsSecond_some]
        rw [EndsFraction] at hend'
        by_cases hnil : ds = []
        · subst hnil
          rw [hcs'] at hend
          exact hend
        · rw [if_neg hnil] at hend' ⊢
          exact hend'
      · rw [hcs, hcs']
        simp [ClockForm.secondText]
  · rintro ⟨second?, rest, hfits, hend, rfl, h⟩
    cases second? with
    | none => exact ⟨[], by decide, h⟩
    | some p =>
      obtain ⟨f, ds⟩ := p
      obtain ⟨hf, hds⟩ := hfits _ rfl
      by_cases hnil : ds = []
      · subst hnil
        rw [hwhole] at h
        refine ⟨[.mark [':'], .number .second false], by decide, read_second_cons.mpr ⟨f, rest, hf, hend, ?_, h⟩⟩
        simp [ClockForm.secondText, fractionText]
      · refine ⟨[.mark [':'], .number .second false, .fraction], by decide, read_second_cons.mpr ⟨f, _, hf,
          ends_fractionText hend, ?_, read_fraction_cons.mpr ⟨ds, rest, hds, ?_, rfl, h⟩⟩⟩
        · simp [ClockForm.secondText]
        · rw [ClockForm.endsSecond_some, if_neg hnil] at hend
          rw [EndsFraction, if_neg hnil]
          exact hend

end

/-! ## Marks and zones -/

namespace Zone

def textOf : Option Zone → List Char
  | none => []
  | some z => z.text

def putOf (r : Reading) : Option Zone → Reading
  | none => r
  | some z => { r with offset := some z.east }

end Zone

def Pattern.marks : List Part :=
  [.mark ['T'], .gap]

def Pattern.zones : List Pattern :=
  [[], [.offset false]]

section
variable {cs rest : List Char} {r r' : Reading} {q : Pattern} {z : Zone} {zone? : Option Zone}

theorem exists_marks : (∃ part ∈ Pattern.marks, Pattern.read (part :: q) r cs = some r') ↔
    ∃ mark rest, (mark = ['T'] ∨ (∀ c ∈ mark, isBlank c = true) ∧ ∀ c ∈ rest.head?, isBlank c = false) ∧
      cs = mark ++ rest ∧ Pattern.read q r rest = some r' := by
  simp only [Pattern.marks, List.mem_cons, List.not_mem_nil, or_false, exists_eq_or_imp, exists_eq_left, read_mark_cons,
    read_gap_cons]
  constructor
  · rintro (⟨rest, rfl, h⟩ | h)
    · exact ⟨['T'], rest, .inl rfl, rfl, h⟩
    · obtain ⟨g, hg, hcs, hhead⟩ := exists_trimLeft cs
      exact ⟨g, trimLeft cs, .inr ⟨hg, hhead⟩, hcs, h⟩
  · rintro ⟨mark, rest, rfl | ⟨hblank, hhead⟩, rfl, h⟩
    · exact .inl ⟨rest, rfl, h⟩
    · refine .inr ?_
      rw [trimLeft_blanks hblank hhead]
      exact h

theorem exists_zones : (∃ p ∈ Pattern.zones, Pattern.read p r cs = some r') ↔
    ∃ zone? : Option Zone, (∀ z ∈ zone?, z.Fits false) ∧ cs = Zone.textOf zone? ∧ r' = Zone.putOf r zone? := by
  simp only [Pattern.zones, List.mem_cons, List.not_mem_nil, or_false, exists_eq_or_imp, exists_eq_left, read_nil, read_zone]
  constructor
  · rintro (⟨rfl, rfl⟩ | ⟨z, hz, rfl, rfl⟩)
    · exact ⟨none, nofun, rfl, rfl⟩
    · refine ⟨some z, ?_, rfl, rfl⟩
      rintro _ ⟨⟩
      exact hz
  · rintro ⟨_ | z, hz, rfl, rfl⟩
    · exact .inl ⟨rfl, rfl⟩
    · exact .inr ⟨z, hz z rfl, rfl, rfl⟩

theorem not_isDigit_of_isBlank {c : Char} (h : isBlank c = true) : isDigit c = false := by
  by_contra hdigit
  rw [isBlank_of_isDigit (by simpa using hdigit)] at h
  cases h

/-- A zone does not begin like anything that may stand before it. -/
theorem Zone.Fits.head {strict : Bool} (h : z.Fits strict) :
    ∃ c tail, z.text = c :: tail ∧ isDigit c = false ∧ c ≠ '.' ∧ c ≠ ':' := by
  cases z with
  | letter blanks c =>
    obtain ⟨-, rfl, rfl | rfl⟩ := h
    · exact ⟨'Z', [], rfl, by decide⟩
    · exact ⟨'z', [], rfl, by decide⟩
  | offset blanks sign hours mark minutes =>
    obtain ⟨hblanks, -, hsign, -⟩ := h
    cases blanks with
    | nil =>
      have hsigns : ∀ c ∈ signs, isDigit c = false ∧ c ≠ '.' ∧ c ≠ ':' := by decide
      exact ⟨sign, _, rfl, hsigns sign hsign⟩
    | cons c blanks =>
      have hblank : isBlank c = true := hblanks c List.mem_cons_self
      have hother : ∀ d, isBlank d = false → c ≠ d := by
        rintro _ hd rfl
        rw [hblank] at hd
        cases hd
      exact ⟨c, _, rfl, not_isDigit_of_isBlank hblank, hother '.' (by decide), hother ':' (by decide)⟩

theorem Zone.Fits.endsFraction {strict : Bool} {ds : List Char} (h : z.Fits strict) : EndsFraction ds z.text := by
  obtain ⟨c, tail, htext, hdigit, hpoint, -⟩ := h.head
  rw [EndsFraction, htext]
  split
  · rintro _ ⟨⟩
    exact hpoint
  · exact endsDigits_cons hdigit

theorem head_textOf (h : ∀ z ∈ zone?, z.Fits false) :
    ∀ c ∈ (Zone.textOf zone?).head?, isDigit c = false ∧ c ≠ '.' ∧ c ≠ ':' := by
  intro c hc
  cases zone? with
  | none => cases hc
  | some z =>
    obtain ⟨d, tail, htext, hd⟩ := (h z rfl).head
    rw [Zone.textOf, htext] at hc
    cases hc
    exact hd

end

/-! ## Whole forms -/

namespace TimeForm

def text (t : TimeForm) : List Char :=
  t.mark ++ (t.clock.text ++ Zone.textOf t.zone?)

def put (r : Reading) (t : TimeForm) : Reading :=
  Zone.putOf (t.clock.put r) t.zone?

structure Lenient (t : TimeForm) : Prop where
  mark : t.mark = ['T'] ∨ t.mark = ['t'] ∨ (∀ c ∈ t.mark, isBlank c = true) ∧ t.clock.hour.blanks = []
  clock : t.clock.Fits false
  zone : ∀ z ∈ t.zone?, z.Fits false

end TimeForm

namespace Form

def textOf : Option TimeForm → List Char
  | none => []
  | some t => t.text

def text (w : Form) : List Char :=
  w.date.text ++ textOf w.time?

def reading (w : Form) : Reading :=
  match w.time? with
  | none => w.date.put {}
  | some t => t.put (w.date.put {})

/-- The pieces are written for the lenient parts. A clock right behind the date needs a day of two digits. -/
structure Lenient (w : Form) : Prop where
  date : w.date.Fits false
  time : ∀ t ∈ w.time?, t.Lenient
  glued : ∀ t ∈ w.time?, t.mark = [] → w.date.day.digits.length = 2

end Form

/-! ## Where the pieces end -/

section
variable {rest : List Char} {field : Field} {f : Figure} {second? : Option (Figure × List Char)} {zone? : Option Zone}

theorem Figure.Fits.sign_eq_nil {strict : Bool} (h : f.Fits strict field) (hfield : field ≠ .year) : f.sign = [] := by
  rcases h.lenient.1.sign with hsign | ⟨hyear, -⟩
  · exact hsign
  · exact absurd hyear hfield

theorem Figure.Fits.exists_digit {strict : Bool} (h : f.Fits strict field) (hfield : field ≠ .year)
    (hblanks : f.blanks = []) : ∃ d tail, f.text = d :: tail ∧ isDigit d = true := by
  obtain ⟨d, ds, hds⟩ := List.exists_cons_of_ne_nil h.lenient.1.ne_nil
  refine ⟨d, ds, ?_, h.lenient.1.digits d (by simp [hds])⟩
  rw [Figure.text, hblanks, h.sign_eq_nil hfield, hds]
  rfl

theorem Figure.Fits.blanks_eq_nil {strict : Bool} (h : f.Fits strict field)
    (hhead : ∀ c ∈ (f.text ++ rest).head?, isBlank c = false) : f.blanks = [] := by
  cases hblanks : f.blanks with
  | nil => rfl
  | cons c blanks =>
    have hblank : isBlank c = true := h.lenient.1.blanks c (by simp [hblanks])
    have hplain : isBlank c = false := hhead c (by simp [Figure.text, hblanks])
    rw [hblank] at hplain
    cases hplain

theorem endsDigits_textOf (h : ∀ z ∈ zone?, z.Fits false) : EndsDigits (Zone.textOf zone?) :=
  fun c hc => (head_textOf h c hc).1

theorem endsFraction_textOf {ds : List Char} (h : ∀ z ∈ zone?, z.Fits false) : EndsFraction ds (Zone.textOf zone?) := by
  cases zone? with
  | none =>
    rw [EndsFraction]
    split
    · intro c hc
      cases hc
    · exact endsDigits_nil
  | some z => exact Zone.Fits.endsFraction (h z rfl)

theorem endsSecond_textOf (h : ∀ z ∈ zone?, z.Fits false) : ClockForm.EndsSecond second? (Zone.textOf zone?) := by
  cases second? with
  | none => trivial
  | some p =>
    rw [ClockForm.endsSecond_some]
    split
    · exact .inr (endsDigits_textOf h)
    · exact endsDigits_textOf h

theorem endsDigits_secondText (h : EndsDigits rest) : EndsDigits (ClockForm.secondText second? ++ rest) := by
  cases second? with
  | none => exact h
  | some p => exact endsDigits_cons (by decide)

/-- Behind a day there may be one more digit only where the clock follows without a mark. -/
theorem TimeForm.Lenient.ends_day_iff {t : TimeForm} (h : t.Lenient) (hf : f.Fits false .day) :
    f.Ends .day t.text ↔ (t.mark = [] → f.digits.length = 2) := by
  cases hmark : t.mark with
  | nil =>
    obtain ⟨-, hhour⟩ : (∀ c ∈ t.mark, isBlank c = true) ∧ t.clock.hour.blanks = [] := by simpa [hmark] using h.mark
    obtain ⟨digit, tail, htext, hdigit⟩ := h.clock.hour.exists_digit (by decide) hhour
    have hgoes : ¬EndsDigits t.text := by
      intro hend
      have hnone := hend digit (by simp [TimeForm.text, hmark, ClockForm.text, htext])
      rw [hdigit] at hnone
      cases hnone
    constructor
    · intro hend _
      exact (hend.resolve_right hgoes).2
    · intro hlength
      exact .inl ⟨hf.sign_eq_nil (by decide), hlength rfl⟩
  | cons c mark =>
    have hc : isDigit c = false := by
      rcases h.mark with hletter | hletter | ⟨hblanks, -⟩
      · rw [hmark] at hletter
        cases hletter
        decide
      · rw [hmark] at hletter
        cases hletter
        decide
      · exact not_isDigit_of_isBlank (hblanks c (by simp [hmark]))
    constructor
    · intro _ hnil
      cases hnil
    · intro _
      rw [TimeForm.text, hmark]
      exact ends_of_cons hc

theorem Form.Lenient.ends {w : Form} (h : w.Lenient) : w.date.day.Ends .day (Form.textOf w.time?) := by
  cases htime : w.time? with
  | none => exact .inr endsDigits_nil
  | some t => exact ((h.time t htime).ends_day_iff h.date.day).mpr (h.glued t htime)

end

/-! ## What the patterns read -/

theorem mem_lenient_iff {p : Pattern} : p ∈ Pattern.lenient ↔
    p = Pattern.date false ∨ ∃ part ∈ Pattern.marks, ∃ s ∈ Pattern.seconds, ∃ z ∈ Pattern.zones,
      p = Pattern.date false ++ part :: (Pattern.hourMinute false ++ (s ++ z)) := by
  constructor
  · revert p
    decide
  · rintro (rfl | ⟨part, hpart, s, hs, z, hz, rfl⟩)
    · decide
    · revert part s z
      decide

section
variable {cs : List Char} {r r' : Reading} {w : Form}

theorem exists_times (hr : r.nanos = 0) : (∃ part ∈ Pattern.marks, ∃ s ∈ Pattern.seconds, ∃ z ∈ Pattern.zones,
    Pattern.read (part :: (Pattern.hourMinute false ++ (s ++ z))) r cs = some r') ↔
    ∃ t : TimeForm, t.Lenient ∧ t.mark ≠ ['t'] ∧ cs = t.text ∧ r' = t.put r := by
  constructor
  · rintro ⟨part, hpart, s, hs, z, hz, h⟩
    obtain ⟨mark, clock, hmark, rfl, hclock⟩ := exists_marks.mp ⟨part, hpart, h⟩
    obtain ⟨hour, minute, second, hhour, hminute, -, rfl, hsecond⟩ := read_hourMinute.mp hclock
    have hnanos : ((r.set .hour hour.value).set .minute minute.value).nanos = 0 := hr
    obtain ⟨second?, zone, hfits, -, rfl, hzone⟩ := (exists_seconds hnanos).mp ⟨s, hs, hsecond⟩
    obtain ⟨zone?, hzones, rfl, rfl⟩ := exists_zones.mp ⟨z, hz, hzone⟩
    refine ⟨⟨mark, ⟨hour, minute, second?⟩, zone?⟩, ⟨?_, ⟨hhour, hminute, hfits⟩, hzones⟩, ?_, ?_, rfl⟩
    · rcases hmark with hmark | ⟨hblanks, hhead⟩
      · exact .inl hmark
      · exact .inr (.inr ⟨hblanks, hhour.blanks_eq_nil hhead⟩)
    · rintro rfl
      rcases hmark with hmark | ⟨hblanks, -⟩
      · cases hmark
      · exact absurd (hblanks 't' (by simp)) (by decide)
    · simp [TimeForm.text, ClockForm.text]
  · rintro ⟨⟨mark, clock, zone?⟩, ⟨hmark, hclock, hzone⟩, hsmall, rfl, rfl⟩
    -- the parts are put in front from the last one on, each with what ends it in the text behind
    obtain ⟨z, hz, hread⟩ := exists_zones.mpr ⟨zone?, hzone, rfl, rfl⟩
    have hnanos : ((r.set .hour clock.hour.value).set .minute clock.minute.value).nanos = 0 := hr
    obtain ⟨s, hs, hread⟩ := (exists_seconds hnanos).mpr
      ⟨clock.second?, _, hclock.second, endsSecond_textOf hzone, rfl, hread⟩
    have hread := read_hourMinute.mpr ⟨clock.hour, clock.minute, _, hclock.hour, hclock.minute,
      .inr (endsDigits_secondText (endsDigits_textOf hzone)), rfl, hread⟩
    have hplain : mark = ['T'] ∨ (∀ c ∈ mark, isBlank c = true) ∧
        ∀ c ∈ (clock.hour.text ++ ':' :: (clock.minute.text ++
          (ClockForm.secondText clock.second? ++ Zone.textOf zone?))).head?, isBlank c = false := by
      refine hmark.imp_right fun hmark => ?_
      obtain ⟨hblanks, hhour⟩ := hmark.resolve_left hsmall
      refine ⟨hblanks, ?_⟩
      obtain ⟨d, tail, htext, hdigit⟩ := hclock.hour.exists_digit (by decide) hhour
      rw [htext]
      rintro _ ⟨⟩
      exact isBlank_of_isDigit hdigit
    obtain ⟨part, hpart, hread⟩ := exists_marks.mpr ⟨mark, _, hplain, rfl, hread⟩
    refine ⟨part, hpart, s, hs, z, hz, ?_⟩
    simp only [TimeForm.text, ClockForm.text, List.append_assoc, List.cons_append]
    exact hread

/-- The lenient patterns read the lenient forms. -/
theorem exists_lenient_iff : (∃ p ∈ Pattern.lenient, Pattern.read p {} cs = some r) ↔
    ∃ w : Form, w.Lenient ∧ (∀ t ∈ w.time?, t.mark ≠ ['t']) ∧ cs = w.text ∧ r = w.reading := by
  constructor
  · rintro ⟨p, hp, h⟩
    rcases mem_lenient_iff.mp hp with rfl | ⟨part, hpart, s, hs, z, hz, rfl⟩
    · rw [← List.append_nil (Pattern.date false)] at h
      obtain ⟨d, rest, hd, -, rfl, hrest⟩ := read_date.mp h
      obtain ⟨rfl, rfl⟩ := read_nil.mp hrest
      exact ⟨⟨d, none⟩, ⟨hd, nofun, nofun⟩, nofun, rfl, rfl⟩
    · obtain ⟨d, rest, hd, hday, rfl, hrest⟩ := read_date.mp h
      obtain ⟨t, ht, hsmall, rfl, rfl⟩ := (exists_times rfl).mp ⟨part, hpart, s, hs, z, hz, hrest⟩
      refine ⟨⟨d, some t⟩, ⟨hd, ?_, ?_⟩, ?_, rfl, rfl⟩
      · rintro _ ⟨⟩
        exact ht
      · rintro _ ⟨⟩
        exact (ht.ends_day_iff hd.day).mp hday
      · rintro _ ⟨⟩
        exact hsmall
  · rintro ⟨⟨d, _ | t⟩, hw, hsmall, rfl, rfl⟩
    · refine ⟨Pattern.date false, by decide, ?_⟩
      rw [← List.append_nil (Pattern.date false)]
      exact read_date.mpr ⟨d, [], hw.date, hw.ends, rfl, read_nil.mpr ⟨rfl, rfl⟩⟩
    · obtain ⟨part, hpart, s, hs, z, hz, hread⟩ :=
        (exists_times (r := d.put {}) rfl).mpr ⟨t, hw.time t rfl, hsmall t rfl, rfl, rfl⟩
      exact ⟨_, mem_lenient_iff.mpr (.inr ⟨part, hpart, s, hs, z, hz, rfl⟩), read_date.mpr ⟨d, _, hw.date, hw.ends, rfl, hread⟩⟩

structure Form.Internet (w : Form) (t : TimeForm) : Prop where
  time : w.time? = some t
  date : w.date.Fits true
  mark : t.mark ∈ [['T'], ['t'], [' ']]
  clock : t.clock.Fits true
  second : t.clock.second?.isSome = true
  zone : ∃ z, t.zone? = some z ∧ z.Fits true

theorem read_internet : Pattern.read Pattern.internet {} cs = some r ↔
    ∃ (w : Form) (t : TimeForm), w.Internet t ∧ cs = w.text ∧ r = w.reading := by
  have hpattern : Pattern.internet = Pattern.date true ++ (.mark ['T', 't', ' '] :: (Pattern.hourMinute true ++
      (.mark [':'] :: .number .second true :: .fraction :: [.offset true]))) := by decide
  rw [hpattern]
  constructor
  · intro h
    obtain ⟨d, rest, hd, -, rfl, hrest⟩ := read_date.mp h
    obtain ⟨c, hc, clock, rfl, hclock⟩ := read_mark_cons.mp hrest
    obtain ⟨hour, minute, second, hhour, hminute, -, rfl, hsecond⟩ := read_hourMinute.mp hclock
    obtain ⟨f, fraction, hf, -, rfl, hfraction⟩ := read_second_cons.mp hsecond
    obtain ⟨ds, zone, hds, -, rfl, hzone⟩ := read_fraction_cons.mp hfraction
    obtain ⟨z, hz, rfl, rfl⟩ := read_zone.mp hzone
    refine ⟨⟨d, some ⟨[c], ⟨hour, minute, some (f, ds)⟩, some z⟩⟩, _,
      ⟨rfl, hd, ?_, ⟨hhour, hminute, ?_⟩, rfl, z, rfl, hz⟩, ?_, rfl⟩
    · simpa using hc
    · rintro _ ⟨⟩
      exact ⟨hf, hds⟩
    · simp [Form.text, Form.textOf, TimeForm.text, ClockForm.text, ClockForm.secondText, Zone.textOf]
  · rintro ⟨⟨d, _⟩, ⟨mark, ⟨hour, minute, second?⟩, _⟩, ⟨rfl, hd, hmark, hclock, hsecond, z, rfl, hz⟩, rfl, rfl⟩
    obtain ⟨c, hc, rfl⟩ : ∃ c ∈ ['T', 't', ' '], mark = [c] := by simpa using hmark
    obtain ⟨⟨f, ds⟩, rfl⟩ := Option.isSome_iff_exists.mp hsecond
    obtain ⟨hf, hds⟩ := hclock.second _ rfl
    have hread := (read_zone (r := ClockForm.put ⟨hour, minute, some (f, ds)⟩ (d.put {}))).mpr ⟨z, hz, rfl, rfl⟩
    have hread := (read_fraction_cons
      (r := (((d.put {}).set .hour hour.value).set .minute minute.value).set .second f.value)).mpr
      ⟨ds, z.text, hds, Zone.Fits.endsFraction hz, rfl, hread⟩
    have hread := read_second_cons.mpr ⟨f, _, hf, hf.1.ends _, rfl, hread⟩
    have hread := read_hourMinute.mpr ⟨hour, minute, _, hclock.hour, hclock.minute, hclock.minute.1.ends _, rfl, hread⟩
    have hread := read_mark_cons.mpr ⟨c, hc, _, rfl, hread⟩
    refine read_date.mpr ⟨d, _, hd, hd.day.1.ends _, ?_, hread⟩
    simp [Form.text, Form.textOf, TimeForm.text, ClockForm.text, ClockForm.secondText, Zone.textOf]

end

end DocStore.Time
