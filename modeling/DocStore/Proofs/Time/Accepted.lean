import DocStore.Proofs.Time.Unambiguous

/-!
# Which texts are timestamps

The accepted forms are the lenient ones, where a letter may stand for the offset zero; a small `t` is a mark of internet forms
alone. A text is a timestamp exactly if it is such a form, blanks around it aside, and shows a real date in the range of
years.
-/

namespace DocStore.Time

open Decimal (isDigit)
open Text (isBlank trim)

/-! ## Zones with letters -/

namespace Zone

def Accepted : Zone → Prop
  | letter blanks c => (∀ b ∈ blanks, isBlank b = true) ∧ (c = 'Z' ∨ c = 'z')
  | offset blanks sign hours mark minutes => (offset blanks sign hours mark minutes).Fits false

def numeric : Zone → Zone
  | letter blanks _ => offset blanks '+' ['0', '0'] [':'] ['0', '0']
  | offset blanks sign hours mark minutes => offset blanks sign hours mark minutes

end Zone

def TimeForm.numeric (t : TimeForm) : TimeForm :=
  { t with zone? := t.zone?.map Zone.numeric }

def Form.numeric (w : Form) : Form :=
  { w with time? := w.time?.map TimeForm.numeric }

structure TimeForm.Accepted (t : TimeForm) : Prop where
  mark : t.mark = ['T'] ∨ t.mark = ['t'] ∨ (∀ c ∈ t.mark, isBlank c = true) ∧ t.clock.hour.blanks = []
  clock : t.clock.Fits false
  zone : ∀ z ∈ t.zone?, z.Accepted

structure Form.Accepted (w : Form) : Prop where
  date : w.date.Fits false
  time : ∀ t ∈ w.time?, t.Accepted
  glued : ∀ t ∈ w.time?, t.mark = [] → w.date.day.digits.length = 2
  small : ∀ t ∈ w.time?, t.mark = ['t'] → w.Internet t

section
variable {z : Zone} {strict : Bool} {w : Form} {t : TimeForm}

theorem Zone.Fits.accepted (h : z.Fits strict) : z.Accepted := by
  cases z with
  | letter blanks c =>
    obtain ⟨-, rfl, hletter⟩ := h
    exact ⟨nofun, hletter⟩
  | offset blanks sign hours mark minutes =>
    obtain ⟨hblanks, -, hsign, hhours, hmark, hminutes⟩ := h
    refine ⟨hblanks, nofun, hsign, hhours, ?_, hminutes⟩
    cases strict with
    | false => exact hmark
    | true =>
      obtain rfl : mark = [':'] := hmark
      intro c hc
      exact .inl (List.mem_singleton.mp hc)

theorem Zone.Accepted.numeric (h : z.Accepted) : z.numeric.Fits false := by
  cases z with
  | letter blanks c =>
    have hzeros : ∀ greatest, TwoDigits greatest ['0', '0'] := fun greatest => ⟨by decide, rfl, Nat.zero_le _⟩
    exact ⟨h.1, nofun, by decide, hzeros 23, fun c hc => .inl (List.mem_singleton.mp hc), hzeros 59⟩
  | offset blanks sign hours mark minutes => exact h

theorem Zone.east_numeric (z : Zone) : z.numeric.east = z.east := by
  cases z with
  | letter blanks c => rfl
  | offset blanks sign hours mark minutes => rfl

theorem TimeForm.Accepted.numeric (h : t.Accepted) : t.numeric.Lenient := by
  refine ⟨h.mark, h.clock, ?_⟩
  intro z hz
  obtain ⟨z', hz', rfl⟩ := Option.map_eq_some_iff.mp hz
  exact (h.zone z' hz').numeric

theorem Form.Accepted.numeric (h : w.Accepted) : w.numeric.Lenient := by
  refine ⟨h.date, ?_, ?_⟩
  · intro t ht
    obtain ⟨t', ht', rfl⟩ := Option.map_eq_some_iff.mp ht
    exact (h.time t' ht').numeric
  · intro t ht
    obtain ⟨t', ht', rfl⟩ := Option.map_eq_some_iff.mp ht
    exact h.glued t' ht'

theorem Form.reading_numeric (w : Form) : w.numeric.reading = w.reading := by
  obtain ⟨d, _ | ⟨mark, clock, _ | z⟩⟩ := w
  · rfl
  · rfl
  · show ({ clock.put (d.put {}) with offset := some z.numeric.east } : Reading) =
      { clock.put (d.put {}) with offset := some z.east }
    rw [z.east_numeric]

theorem DateForm.Fits.lenient {d : DateForm} (h : d.Fits strict) : d.Fits false :=
  ⟨h.year.lenient, h.month.lenient, h.day.lenient⟩

theorem ClockForm.Fits.lenient {c : ClockForm} (h : c.Fits strict) : c.Fits false :=
  ⟨h.hour.lenient, h.minute.lenient, fun p hp => ⟨(h.second p hp).1.lenient, (h.second p hp).2⟩⟩

theorem Form.Internet.accepted (h : w.Internet t) : w.Accepted := by
  obtain ⟨z, hzone, hz⟩ := h.zone
  refine ⟨h.date.lenient, ?_, ?_, ?_⟩
  · rw [h.time]
    rintro _ ⟨⟩
    refine ⟨?_, h.clock.lenient, ?_⟩
    · have hmark := h.mark
      simp only [List.mem_cons, List.not_mem_nil, or_false] at hmark
      refine hmark.imp_right fun hmark => hmark.imp_right fun hspace => ⟨?_, h.clock.hour.1.blanks⟩
      rw [hspace]
      decide
    · rw [hzone]
      rintro _ ⟨⟩
      exact Zone.Fits.accepted hz
  · rw [h.time]
    rintro _ ⟨⟩ hnil
    have hmark := h.mark
    rw [hnil] at hmark
    exact absurd hmark (by decide)
  · rw [h.time]
    rintro _ ⟨⟩ -
    exact h

end

/-! ## Letters for offsets -/

def zeroOffset : List Char :=
  ['+', '0', '0', ':', '0', '0']

def ClosesDigits (cs : List Char) : Prop :=
  ∃ c ∈ cs.getLast?, isDigit c = true

section
variable {cs ds : List Char} {c : Char} {strict : Bool} {field : Field}

theorem closesDigits_append (as : List Char) (h : ClosesDigits cs) : ClosesDigits (as ++ cs) := by
  obtain ⟨c, hc, hdigit⟩ := h
  refine ⟨c, ?_, hdigit⟩
  rw [List.getLast?_append, Option.mem_def.mp hc]
  rfl

theorem closesDigits_cons (c : Char) (h : ClosesDigits cs) : ClosesDigits (c :: cs) :=
  closesDigits_append [c] h

theorem closesDigits_digits (hne : ds ≠ []) (hds : ∀ d ∈ ds, isDigit d = true) : ClosesDigits ds :=
  ⟨ds.getLast hne, List.getLast?_eq_some_getLast hne, hds _ (List.getLast_mem hne)⟩

theorem Figure.Fits.closesDigits {f : Figure} (h : f.Fits strict field) : ClosesDigits f.text :=
  closesDigits_append _ (closesDigits_append _ (closesDigits_digits h.lenient.1.ne_nil h.lenient.1.digits))

theorem DateForm.Fits.closesDigits {d : DateForm} (h : d.Fits strict) : ClosesDigits d.text :=
  closesDigits_append _ (closesDigits_cons _ (closesDigits_append _ (closesDigits_cons _ h.day.closesDigits)))

theorem ClockForm.Fits.closesDigits {clock : ClockForm} (h : clock.Fits strict) : ClosesDigits clock.text := by
  refine closesDigits_append _ (closesDigits_cons _ ?_)
  cases hsecond : clock.second? with
  | none =>
    rw [secondText, List.append_nil]
    exact h.minute.closesDigits
  | some p =>
    obtain ⟨hf, hds⟩ := h.second p hsecond
    refine closesDigits_append _ (closesDigits_cons _ ?_)
    by_cases hnil : p.2 = []
    · rw [fractionText, if_pos hnil, List.append_nil]
      exact hf.closesDigits
    · rw [fractionText, if_neg hnil]
      exact closesDigits_append _ (closesDigits_cons _ (closesDigits_digits hnil hds))

theorem Zone.Fits.closesDigits {z : Zone} (h : z.Fits false) : ClosesDigits z.text := by
  cases z with
  | letter blanks c => exact absurd h.1 (by decide)
  | offset blanks sign hours mark minutes =>
    obtain ⟨-, -, -, -, -, hminutes⟩ := h
    have hne : minutes ≠ [] := by
      rintro rfl
      exact absurd hminutes.length (by decide)
    exact closesDigits_append _ (closesDigits_cons _ (closesDigits_append _ (closesDigits_append _
      (closesDigits_digits hne hminutes.digits))))

theorem Form.Lenient.closesDigits {w : Form} (h : w.Lenient) : ClosesDigits w.text := by
  obtain ⟨d, _ | ⟨mark, clock, _ | z⟩⟩ := w
  · have hdate : ClosesDigits (d.text ++ []) := by
      rw [List.append_nil]
      exact h.date.closesDigits
    exact hdate
  · have hclock : ClosesDigits (clock.text ++ []) := by
      rw [List.append_nil]
      exact (h.time _ rfl).clock.closesDigits
    exact closesDigits_append _ (closesDigits_append _ hclock)
  · have hzone : ClosesDigits z.text := Zone.Fits.closesDigits ((h.time _ rfl).zone z rfl)
    exact closesDigits_append _ (closesDigits_append _ (closesDigits_append _ hzone))

theorem withOffset_of_closesDigits (h : ClosesDigits cs) : withOffset cs = cs := by
  obtain ⟨c, hc, hdigit⟩ := h
  have hother : ∀ d, isDigit d = false → c ≠ d := by
    rintro _ hd rfl
    rw [hdigit] at hd
    cases hd
  have hletter : ¬(c = 'Z' ∨ c = 'z') := not_or.mpr ⟨hother 'Z' (by decide), hother 'z' (by decide)⟩
  unfold withOffset
  rw [Option.mem_def.mp hc]
  exact if_neg hletter

theorem withOffset_letter (hletter : c = 'Z' ∨ c = 'z') : withOffset (cs ++ [c]) = cs ++ zeroOffset := by
  simp [withOffset, hletter, zeroOffset]

theorem withOffset_cases (cs : List Char) :
    withOffset cs = cs ∨ ∃ as c, (c = 'Z' ∨ c = 'z') ∧ cs = as ++ [c] ∧ withOffset cs = as ++ zeroOffset := by
  rcases List.eq_nil_or_concat cs with rfl | ⟨as, c, rfl⟩
  · exact .inl rfl
  · by_cases hletter : c = 'Z' ∨ c = 'z'
    · exact .inr ⟨as, c, hletter, List.concat_eq_append, by rw [List.concat_eq_append, withOffset_letter hletter]⟩
    · refine .inl ?_
      simp [withOffset, hletter]

end

theorem Form.Accepted.withOffset_text {w : Form} (h : w.Accepted) : withOffset w.text = w.numeric.text := by
  have hcloses := h.numeric.closesDigits
  obtain ⟨d, _ | ⟨mark, clock, _ | z⟩⟩ := w
  · exact withOffset_of_closesDigits hcloses
  · exact withOffset_of_closesDigits hcloses
  · cases z with
    | letter blanks c =>
      have hletter := ((h.time _ rfl).zone _ rfl).2
      have hzero : withOffset ((d.text ++ (mark ++ (clock.text ++ blanks))) ++ [c]) = _ := withOffset_letter hletter
      simpa [text, textOf, TimeForm.text, Zone.textOf, Zone.text, Form.numeric, TimeForm.numeric, Zone.numeric,
        zeroOffset] using hzero
    | offset blanks sign hours mark' minutes => exact withOffset_of_closesDigits hcloses

/-! ## Where the offset zero was written for a letter -/

section
variable {cs ds : List Char} {strict : Bool} {field : Field}

theorem plus_not_mem_of_digits (h : ∀ d ∈ ds, isDigit d = true) : '+' ∉ ds :=
  fun hmem => absurd (h '+' hmem) (by decide)

theorem plus_not_mem_of_blanks (h : ∀ c ∈ cs, isBlank c = true) : '+' ∉ cs :=
  fun hmem => absurd (h '+' hmem) (by decide)

theorem Figure.Fits.plus_not_mem {f : Figure} (h : f.Fits strict field) (hfield : field ≠ .year) : '+' ∉ f.text := by
  rw [Figure.text, h.sign_eq_nil hfield, List.nil_append, List.mem_append]
  exact not_or.mpr ⟨plus_not_mem_of_blanks h.lenient.1.blanks, plus_not_mem_of_digits h.lenient.1.digits⟩

theorem ClockForm.Fits.plus_not_mem {clock : ClockForm} (h : clock.Fits strict) : '+' ∉ clock.text := by
  have hsecond : '+' ∉ secondText clock.second? := by
    cases hsome : clock.second? with
    | none => exact List.not_mem_nil
    | some p =>
      obtain ⟨hf, hds⟩ := h.second p hsome
      have hfraction : '+' ∉ fractionText p.2 := by
        rw [fractionText]
        split
        · exact List.not_mem_nil
        · simp [plus_not_mem_of_digits hds]
      simp [secondText, hf.plus_not_mem, hfraction]
  simp [ClockForm.text, h.hour.plus_not_mem, h.minute.plus_not_mem, hsecond]

theorem TimeForm.Lenient.plus_not_mem_mark {t : TimeForm} (h : t.Lenient) : '+' ∉ t.mark := by
  rcases h.mark with hmark | hmark | ⟨hblanks, -⟩
  · rw [hmark]
    decide
  · rw [hmark]
    decide
  · exact plus_not_mem_of_blanks hblanks

theorem split_plus {as bs xs ys : List Char} {c : Char} (h : as ++ c :: bs = xs ++ '+' :: ys) (hplus : '+' ∉ bs)
    (hc : c ∉ ys) : as = xs ∧ c = '+' ∧ bs = ys := by
  rcases List.append_eq_append_iff.mp h with ⟨us, rfl, hus⟩ | ⟨us, rfl, hus⟩
  · cases us with
    | nil =>
      cases hus
      exact ⟨(List.append_nil _).symm, rfl, rfl⟩
    | cons u us =>
      obtain ⟨rfl, rfl⟩ := List.cons.inj hus
      exact absurd (by simp) hplus
  · cases us with
    | nil =>
      cases hus
      exact ⟨List.append_nil _, rfl, rfl⟩
    | cons u us =>
      obtain ⟨rfl, rfl⟩ := List.cons.inj hus
      exact absurd (by simp) hc

theorem Form.Lenient.exists_zeroOffset {w : Form} (h : w.Lenient) (htext : w.text = cs ++ zeroOffset) :
    ∃ t blanks, w.time? = some t ∧ t.zone? = some (.offset blanks '+' ['0', '0'] [':'] ['0', '0']) ∧
      (∀ b ∈ blanks, isBlank b = true) ∧ cs = w.date.text ++ (t.mark ++ (t.clock.text ++ blanks)) := by
  obtain ⟨d, time?⟩ := w
  -- a form without a zone has its only plus in front of the year
  have hzoned : ∀ tail, '+' ∉ tail → d.text ++ tail ≠ cs ++ zeroOffset := by
    intro tail htail heq
    simp only [DateForm.text, List.append_assoc, List.cons_append] at heq
    have hplus : '+' ∉ d.month.text ++ '-' :: (d.day.text ++ tail) := by
      simp [h.date.month.plus_not_mem, h.date.day.plus_not_mem, htail]
    exact absurd (split_plus heq hplus (by decide)).2.1 (by decide)
  cases time? with
  | none => exact absurd htext (hzoned [] List.not_mem_nil)
  | some t =>
    obtain ⟨mark, clock, zone?⟩ := t
    have htime := h.time _ rfl
    cases zone? with
    | none =>
      refine absurd htext (hzoned _ ?_)
      simp [textOf, TimeForm.text, Zone.textOf, htime.plus_not_mem_mark, htime.clock.plus_not_mem]
    | some z =>
      have hz := htime.zone z rfl
      cases z with
      | letter blanks c => exact absurd hz.1 (by decide)
      | offset blanks sign hours colon minutes =>
        obtain ⟨hblanks, -, hsign, hhours, hcolon, hminutes⟩ := hz
        have hplus : '+' ∉ hours ++ (colon ++ minutes) := by
          have hmiddle : '+' ∉ colon := fun hmem => absurd (hcolon '+' hmem) (by decide)
          simp [plus_not_mem_of_digits hhours.digits, hmiddle, plus_not_mem_of_digits hminutes.digits]
        have hother : ∀ sign ∈ signs, sign ∉ ['0', '0', ':', '0', '0'] := by decide
        have hsplit : (d.text ++ (mark ++ (clock.text ++ blanks))) ++ sign :: (hours ++ (colon ++ minutes)) =
            cs ++ '+' :: ['0', '0', ':', '0', '0'] := by
          rw [← zeroOffset, ← htext]
          simp [text, textOf, TimeForm.text, Zone.textOf, Zone.text]
        obtain ⟨hfront, rfl, hback⟩ := split_plus hsplit hplus (hother sign hsign)
        have hzeros : hours ++ (colon ++ minutes) = ['0', '0'] ++ ([':'] ++ ['0', '0']) := hback
        obtain ⟨rfl, hmiddle⟩ := List.append_inj hzeros hhours.length
        obtain ⟨rfl, rfl⟩ : colon = [':'] ∧ minutes = ['0', '0'] := List.append_inj' hmiddle hminutes.length
        exact ⟨_, blanks, rfl, rfl, hblanks, hfront.symm⟩

end

/-! ## Accepted texts -/

section
variable {cs : List Char} {w w' : Form} {t : Timestamp}

theorem Form.Accepted.reading_unique (h : w.Accepted) (h' : w'.Accepted) (htext : w.text = w'.text) :
    w.reading = w'.reading := by
  have hnumeric : w.numeric.text = w'.numeric.text := by
    rw [← h.withOffset_text, ← h'.withOffset_text, htext]
  rw [← w.reading_numeric, ← w'.reading_numeric]
  exact Form.reading_unique h.numeric h'.numeric hnumeric

theorem Form.Lenient.accepted (h : w.Lenient) (hsmall : ∀ t ∈ w.time?, t.mark ≠ ['t']) : w.Accepted where
  date := h.date
  time t ht := ⟨(h.time t ht).mark, (h.time t ht).clock, fun z hz => Zone.Fits.accepted ((h.time t ht).zone z hz)⟩
  glued := h.glued
  small t ht hmark := absurd hmark (hsmall t ht)

theorem Form.Lenient.exists_accepted (h : w.Lenient) (hsmall : ∀ t ∈ w.time?, t.mark ≠ ['t'])
    (htext : withOffset cs = w.text) : ∃ w' : Form, w'.Accepted ∧ cs = w'.text ∧ w'.reading = w.reading := by
  rcases withOffset_cases cs with hsame | ⟨as, c, hletter, rfl, hzero⟩
  · exact ⟨w, h.accepted hsmall, hsame.symm.trans htext, rfl⟩
  · obtain ⟨t, blanks, htime, hzone, hblanks, rfl⟩ := h.exists_zeroOffset (htext.symm.trans hzero)
    have ht := h.time t htime
    refine ⟨⟨w.date, some ⟨t.mark, t.clock, some (.letter blanks c)⟩⟩, ⟨h.date, ?_, ?_, ?_⟩, ?_, ?_⟩
    · rintro _ ⟨⟩
      refine ⟨ht.mark, ht.clock, ?_⟩
      rintro _ ⟨⟩
      exact ⟨hblanks, hletter⟩
    · rintro _ ⟨⟩ hnil
      exact h.glued t htime hnil
    · rintro _ ⟨⟩ hmark
      exact absurd hmark (hsmall t htime)
    · simp [text, textOf, TimeForm.text, Zone.textOf, Zone.text]
    · rw [reading, reading, htime]
      dsimp only
      rw [TimeForm.put, TimeForm.put, hzone]
      rfl

theorem exists_accepted_of_read? (h : Timestamp.read? cs = some t) :
    ∃ w : Form, w.Accepted ∧ trim cs = w.text ∧ w.reading.timestamp? = some t := by
  rcases Option.or_eq_some_iff.mp h with h | ⟨-, h⟩
  · obtain ⟨r, hread, ht⟩ := Option.bind_eq_some_iff.mp h
    obtain ⟨w, time, hw, htext, rfl⟩ := read_internet.mp hread
    exact ⟨w, hw.accepted, htext, ht⟩
  · obtain ⟨p, hp, h⟩ := List.exists_of_findSome?_eq_some h
    obtain ⟨r, hread, ht⟩ := Option.bind_eq_some_iff.mp h
    obtain ⟨w, hw, hsmall, htext, rfl⟩ := exists_lenient_iff.mp ⟨p, hp, hread⟩
    obtain ⟨w', hw', htext', hreading⟩ := hw.exists_accepted hsmall htext
    exact ⟨w', hw', htext', hreading ▸ ht⟩

theorem isSome_read? (hw : w.Accepted) (htext : trim cs = w.text) (ht : w.reading.timestamp? = some t) :
    (Timestamp.read? cs).isSome = true := by
  rw [Timestamp.read?, Option.isSome_or, Bool.or_eq_true]
  by_cases hsmall : ∀ t ∈ w.time?, t.mark ≠ ['t']
  · -- the lenient patterns read the text with the offset written out
    refine .inr ?_
    have hnumeric : ∀ t ∈ w.numeric.time?, t.mark ≠ ['t'] := by
      intro t ht
      obtain ⟨t', ht', rfl⟩ := Option.map_eq_some_iff.mp ht
      exact hsmall t' ht'
    obtain ⟨p, hp, hread⟩ := exists_lenient_iff.mpr ⟨w.numeric, hw.numeric, hnumeric, rfl, rfl⟩
    refine List.findSome?_isSome_iff.mpr ⟨p, hp, ?_⟩
    rw [htext, hw.withOffset_text, Pattern.timestamp?, hread, Option.bind_some, w.reading_numeric, ht]
    rfl
  · -- only the internet pattern knows the small mark
    refine .inl ?_
    obtain ⟨time, htime, hmark⟩ : ∃ time ∈ w.time?, time.mark = ['t'] := by simpa using hsmall
    have hread := read_internet.mpr ⟨w, time, hw.small time htime hmark, rfl, rfl⟩
    rw [Pattern.timestamp?, htext, hread, Option.bind_some, ht]
    rfl

theorem read?_eq_some_iff : Timestamp.read? cs = some t ↔
    ∃ w : Form, w.Accepted ∧ trim cs = w.text ∧ w.reading.timestamp? = some t := by
  constructor
  · exact exists_accepted_of_read?
  · rintro ⟨w, hw, htext, ht⟩
    -- what is read comes from a form of the same text, which shows the same
    obtain ⟨t', ht'⟩ := Option.isSome_iff_exists.mp (isSome_read? hw htext ht)
    obtain ⟨w', hw', htext', hread⟩ := exists_accepted_of_read? ht'
    rw [hw'.reading_unique hw (htext'.symm.trans htext), ht] at hread
    rw [ht', hread]

end

end DocStore.Time
