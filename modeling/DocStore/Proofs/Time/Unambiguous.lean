import DocStore.Proofs.Time.Forms

/-!
# Lenient forms are unambiguous

A text may be written as a lenient form in several ways, because blanks can belong to the mark or to what follows it, but all
of them show the same (`Form.reading_unique`). Each piece is settled by what a reader takes from the front of the text, and
what is left of the text is the same again.
-/

namespace DocStore.Time

open Decimal (isDigit)
open Text (isBlank trimLeft)

section
variable {rest rest' : List Char} {field : Field} {f f' : Figure} {r : Reading}

theorem Figure.unique (h : f.Fits false field) (h' : f'.Fits false field) (hend : f.Ends field rest)
    (hend' : f'.Ends field rest') (htext : f.text ++ rest = f'.text ++ rest') : f.value = f'.value ∧ rest = rest' := by
  have hread := takeLenient_text h.1 hend
  have hread' := takeLenient_text h'.1 hend'
  rw [htext, hread', Option.some_inj, Prod.mk.injEq] at hread
  exact ⟨hread.1.symm, hread.2.symm⟩

theorem DateForm.unique {d d' : DateForm} (h : d.Fits false) (h' : d'.Fits false) (hend : d.day.Ends .day rest)
    (hend' : d'.day.Ends .day rest') (htext : d.text ++ rest = d'.text ++ rest') : d.put r = d'.put r ∧ rest = rest' := by
  simp only [DateForm.text, List.append_assoc, List.cons_append] at htext
  obtain ⟨hyear, htext⟩ := Figure.unique h.year h'.year (ends_of_cons (by decide)) (ends_of_cons (by decide)) htext
  obtain ⟨hmonth, htext⟩ := Figure.unique h.month h'.month (ends_of_cons (by decide)) (ends_of_cons (by decide))
    (List.cons_inj_right _ |>.mp htext)
  obtain ⟨hday, htext⟩ := Figure.unique h.day h'.day hend hend' (List.cons_inj_right _ |>.mp htext)
  refine ⟨?_, htext⟩
  rw [DateForm.put, DateForm.put, hyear, hmonth, hday]

def afterMark : List Char → List Char
  | [] => []
  | c :: cs => if c = 'T' ∨ c = 't' then cs else trimLeft (c :: cs)

theorem TimeForm.afterMark_text {t : TimeForm} (h : t.Lenient) :
    afterMark t.text = t.clock.text ++ Zone.textOf t.zone? := by
  rcases h.mark with hmark | hmark | ⟨hblanks, hhour⟩
  · simp [TimeForm.text, hmark, afterMark]
  · simp [TimeForm.text, hmark, afterMark]
  · -- behind blanks, or none, stands a digit of the hour, so neither letter is in front
    obtain ⟨d, tail, htext, hdigit⟩ := h.clock.hour.exists_digit (by decide) hhour
    have hplain : ∀ c ∈ (t.clock.text ++ Zone.textOf t.zone?).head?, isBlank c = false := by
      rw [ClockForm.text, htext]
      rintro _ ⟨⟩
      exact isBlank_of_isDigit hdigit
    have htrim : trimLeft t.text = t.clock.text ++ Zone.textOf t.zone? := trimLeft_blanks hblanks hplain
    have hfirst : ∀ c ∈ t.text.head?, ¬(c = 'T' ∨ c = 't') := by
      have hletters : ∀ c ∈ ['T', 't'], isBlank c = false ∧ isDigit c = false := by decide
      intro c hc hletter
      obtain ⟨hblank, hnondigit⟩ := hletters c (by simpa using hletter)
      cases hmark : t.mark with
      | nil =>
        rw [TimeForm.text, hmark, ClockForm.text, htext] at hc
        cases hc
        rw [hdigit] at hnondigit
        cases hnondigit
      | cons b mark =>
        rw [TimeForm.text, hmark] at hc
        cases hc
        rw [hblanks c (by simp [hmark])] at hblank
        cases hblank
    cases htext : t.text with
    | nil => rw [← htrim, htext]; rfl
    | cons c cs =>
      rw [htext] at hfirst
      rw [afterMark, if_neg (hfirst c rfl), ← htext]
      exact htrim

end

section
variable {r : Reading} {z z' : Zone} {zone? zone?' : Option Zone} {second? second?' : Option (Figure × List Char)}

theorem Zone.unique (h : z.Fits false) (h' : z'.Fits false) (htext : z.text = z'.text) : z.east = z'.east := by
  have hread : takeOffset false (z.text ++ []) = some (z.east, []) := takeOffset_eq_some_iff.mpr ⟨z, h, rfl, rfl⟩
  have hread' : takeOffset false (z'.text ++ []) = some (z'.east, []) := takeOffset_eq_some_iff.mpr ⟨z', h', rfl, rfl⟩
  rw [htext, hread', Option.some_inj, Prod.mk.injEq] at hread
  exact hread.1.symm

theorem Zone.text_ne_nil (z : Zone) : z.text ≠ [] := by
  cases z with
  | letter blanks c => simp [Zone.text]
  | offset blanks sign hours mark minutes => simp [Zone.text]

theorem Zone.putOf_unique (h : ∀ z ∈ zone?, z.Fits false) (h' : ∀ z ∈ zone?', z.Fits false)
    (htext : Zone.textOf zone? = Zone.textOf zone?') : Zone.putOf r zone? = Zone.putOf r zone?' := by
  cases zone? with
  | none =>
    cases zone?' with
    | none => rfl
    | some z' => exact absurd htext.symm z'.text_ne_nil
  | some z =>
    cases zone?' with
    | none => exact absurd htext z.text_ne_nil
    | some z' => rw [Zone.putOf, Zone.putOf, Zone.unique (h z rfl) (h' z' rfl) htext]

/-- A second begins with a colon, and a zone does not. -/
theorem ClockForm.secondText_eq_nil (hzone : ∀ z ∈ zone?, z.Fits false)
    (htext : Zone.textOf zone? = secondText second? ++ Zone.textOf zone?') : second? = none := by
  cases second? with
  | none => rfl
  | some p => exact absurd rfl (head_textOf hzone ':' (by rw [htext]; rfl)).2.2

theorem ClockForm.putSecond_unique (h : ∀ p ∈ second?, p.1.Fits false .second ∧ ∀ d ∈ p.2, isDigit d = true)
    (h' : ∀ p ∈ second?', p.1.Fits false .second ∧ ∀ d ∈ p.2, isDigit d = true) (hzone : ∀ z ∈ zone?, z.Fits false)
    (hzone' : ∀ z ∈ zone?', z.Fits false)
    (htext : secondText second? ++ Zone.textOf zone? = secondText second?' ++ Zone.textOf zone?') :
    putSecond r second? = putSecond r second?' ∧ Zone.textOf zone? = Zone.textOf zone?' := by
  cases second? with
  | none =>
    obtain rfl := secondText_eq_nil hzone htext
    exact ⟨rfl, htext⟩
  | some p =>
    cases second?' with
    | none => cases secondText_eq_nil hzone' htext.symm
    | some p' =>
      obtain ⟨f, ds⟩ := p
      obtain ⟨f', ds'⟩ := p'
      obtain ⟨hf, hds⟩ := h _ rfl
      obtain ⟨hf', hds'⟩ := h' _ rfl
      simp only [secondText, List.cons_append, List.append_assoc, List.cons.injEq, true_and] at htext
      have hend : EndsSecond (some (f, ds)) (Zone.textOf zone?) := endsSecond_textOf hzone
      have hend' : EndsSecond (some (f', ds')) (Zone.textOf zone?') := endsSecond_textOf hzone'
      obtain ⟨hsecond, htext⟩ := Figure.unique hf hf' (ends_fractionText hend) (ends_fractionText hend') htext
      have hread := takeFraction_text hds (endsFraction_textOf hzone)
      have hread' := takeFraction_text hds' (endsFraction_textOf hzone')
      rw [htext, hread', Option.some_inj, Prod.mk.injEq] at hread
      refine ⟨?_, hread.2.symm⟩
      rw [putSecond, putSecond, hsecond, hread.1]

theorem TimeForm.unique {t t' : TimeForm} (h : t.Lenient) (h' : t'.Lenient) (htext : t.text = t'.text) :
    t.put r = t'.put r := by
  have hclock : t.clock.text ++ Zone.textOf t.zone? = t'.clock.text ++ Zone.textOf t'.zone? := by
    rw [← TimeForm.afterMark_text h, ← TimeForm.afterMark_text h', htext]
  simp only [ClockForm.text, List.append_assoc, List.cons_append] at hclock
  obtain ⟨hhour, hclock⟩ := Figure.unique h.clock.hour h'.clock.hour (ends_of_cons (by decide)) (ends_of_cons (by decide))
    hclock
  obtain ⟨hminute, hclock⟩ := Figure.unique h.clock.minute h'.clock.minute
    (.inr (endsDigits_secondText (endsDigits_textOf h.zone))) (.inr (endsDigits_secondText (endsDigits_textOf h'.zone)))
    (List.cons_inj_right _ |>.mp hclock)
  obtain ⟨hsecond, hzone⟩ := ClockForm.putSecond_unique h.clock.second h'.clock.second h.zone h'.zone hclock
    (r := (r.set .hour t.clock.hour.value).set .minute t.clock.minute.value)
  rw [TimeForm.put, TimeForm.put, ClockForm.put, ClockForm.put, ← hhour, ← hminute, hsecond]
  exact Zone.putOf_unique h.zone h'.zone hzone

theorem TimeForm.text_ne_nil (t : TimeForm) : t.text ≠ [] := by
  simp [TimeForm.text, ClockForm.text]

theorem Form.reading_unique {w w' : Form} (h : w.Lenient) (h' : w'.Lenient) (htext : w.text = w'.text) :
    w.reading = w'.reading := by
  obtain ⟨hdate, htime⟩ := DateForm.unique h.date h'.date h.ends h'.ends htext (r := {})
  obtain ⟨d, time?⟩ := w
  obtain ⟨d', time?'⟩ := w'
  dsimp only at hdate htime
  cases time? with
  | none =>
    cases time?' with
    | none => exact hdate
    | some t' => exact absurd htime.symm t'.text_ne_nil
  | some t =>
    cases time?' with
    | none => exact absurd htime t.text_ne_nil
    | some t' =>
      show t.put (d.put {}) = t'.put (d'.put {})
      rw [hdate]
      exact TimeForm.unique (h.time t rfl) (h'.time t' rfl) htime

end

end DocStore.Time
