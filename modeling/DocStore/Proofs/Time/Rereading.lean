import DocStore.Proofs.Json.Rereading
import DocStore.Proofs.Time.Documented
import DocStore.Record
import DocStore.Time.Writing

/-!
# Timestamps read back

A timestamp is written as an accepted form that shows just this timestamp, if its clock, its date and its offset are in their
bounds, and those of a timestamp that was read are. So what was written is read back, from its own text and from the JSON
string of it.
-/

namespace DocStore.Time

open Decimal (isDigit valueOf padded isDigit_of_mem_padded padded_ne_nil length_padded valueOf_padded)
open Json (Taken escapeChar ok_of_outcome outcome outcome_map outcome_readChars readAll readText renderString skipBlanks_cons)
open Text (isBlank trim)

/-! ## Timestamps that can be read -/

/-- The clock shows a time of the day, or a leap second. -/
structure Clock.Valid (c : Clock) : Prop where
  hour : c.hour ≤ 23
  minute : c.minute ≤ 59
  second : c.second ≤ 59
  nanos : c.nanos < 1000000000 ∨ c.second = 59 ∧ c.nanos < 2000000000

def Timestamp.moment : Timestamp → Moment
  | naive m => m
  | aware m _ => m

def Timestamp.offset? : Timestamp → Option Int
  | naive _ => none
  | aware _ offset => some offset

structure Timestamp.Valid (t : Timestamp) : Prop where
  date : t.moment.date.isValid = true
  clock : t.moment.clock.Valid
  offset : ∀ o ∈ t.offset?, (-1440 < o ∧ o < 1440) ∧ inRange t.seconds = true

section
variable {cs : List Char} {r : Reading} {t : Timestamp}

theorem Reading.Bounded.clock_valid (h : r.Bounded) : r.clock.Valid := by
  have hnanos := h.nanos
  have hsecond := h.second
  unfold Reading.clock
  split
  · exact ⟨h.hour, h.minute, Nat.le_refl 59, .inr ⟨rfl, show r.nanos + 1000000000 < 2000000000 by omega⟩⟩
  · exact ⟨h.hour, h.minute, show r.second ≤ 59 by omega, .inl hnanos⟩

theorem valid_of_read? (h : Timestamp.read? cs = some t) : t.Valid := by
  obtain ⟨w, hw, -, ht⟩ := read?_eq_some_iff.mp h
  have hbounded := hw.bounded
  rcases Reading.timestamp?_eq_some_iff.mp ht with ⟨hdate, ⟨-, rfl⟩ | ⟨o, ho, rfl, hrange⟩⟩
  · exact ⟨hdate, hbounded.clock_valid, nofun⟩
  · refine ⟨hdate, hbounded.clock_valid, ?_⟩
    rintro _ ⟨⟩
    exact ⟨hbounded.offset o ho, hrange⟩

end

/-! ## The form that is written -/

def Figure.plain (size n : Nat) : Figure :=
  ⟨[], [], padded size n⟩

def yearSign (year : Int) : List Char :=
  if 0 ≤ year ∧ year ≤ 9999 then [] else if year < 0 then ['-'] else ['+']

def fractionDigits (nanos : Nat) : List Char :=
  if nanos = 0 then []
  else if nanos % 1000000 = 0 then padded 3 (nanos / 1000000)
  else if nanos % 1000 = 0 then padded 6 (nanos / 1000)
  else padded 9 nanos

def Date.form (d : Date) : DateForm :=
  ⟨⟨[], yearSign d.year, padded 4 d.year.natAbs⟩, .plain 2 d.month, .plain 2 d.day⟩

def Clock.form (c : Clock) : ClockForm :=
  ⟨.plain 2 c.hour, .plain 2 c.minute,
    some (.plain 2 (c.second + c.nanos / 1000000000), fractionDigits (c.nanos % 1000000000))⟩

def Zone.ofOffset (offset : Int) : Zone :=
  .offset [] (if offset < 0 then '-' else '+') (padded 2 (offset.natAbs / 60)) [':'] (padded 2 (offset.natAbs % 60))

def Timestamp.form (t : Timestamp) : Form :=
  ⟨t.moment.date.form, some ⟨['T'], t.moment.clock.form, t.offset?.map Zone.ofOffset⟩⟩

section
variable {n size : Nat} {d : Date} {c : Clock} {o : Int} {t : Timestamp}

theorem text_plain : (Figure.plain size n).text = padded size n := by
  simp [Figure.plain, Figure.text]

theorem Date.text_form (d : Date) : d.form.text = d.render := by
  have hyear : (Figure.mk [] (yearSign d.year) (padded 4 d.year.natAbs)).text = renderYear d.year := by
    unfold Figure.text renderYear yearSign
    split
    · rfl
    · split <;> rfl
  simp only [Date.form, DateForm.text, Date.render, hyear, text_plain, List.append_assoc, List.cons_append]

theorem fractionText_fractionDigits (n : Nat) : fractionText (fractionDigits n) = renderFraction n := by
  unfold fractionText fractionDigits renderFraction
  split
  · rfl
  · split
    · simp [padded_ne_nil]
    · split
      · simp [padded_ne_nil]
      · simp [padded_ne_nil]

theorem Clock.text_form (c : Clock) : c.form.text = c.render := by
  simp only [Clock.form, ClockForm.text, ClockForm.secondText, Clock.render, text_plain, fractionText_fractionDigits,
    List.append_assoc, List.cons_append]

theorem Zone.text_ofOffset (o : Int) : (Zone.ofOffset o).text = renderOffset o := by
  simp only [Zone.ofOffset, Zone.text, renderOffset, List.nil_append, List.cons_append]

theorem Timestamp.text_form (t : Timestamp) : t.form.text = t.render := by
  cases t with
  | naive m => simp [form, Form.text, Form.textOf, TimeForm.text, Zone.textOf, moment, offset?, render, Moment.render,
      Date.text_form, Clock.text_form]
  | aware m o => simp [form, Form.text, Form.textOf, TimeForm.text, Zone.textOf, moment, offset?, render, Moment.render,
      Date.text_form, Clock.text_form, Zone.text_ofOffset]

/-! ## What the form shows -/

theorem value_plain : (Figure.plain size n).value = n := by
  simp [Figure.plain, Figure.value, valueOf_padded]

theorem value_year (year : Int) : (Figure.mk [] (yearSign year) (padded 4 year.natAbs)).value = year := by
  have hvalue : (Figure.mk [] (yearSign year) (padded 4 year.natAbs)).value =
      if yearSign year = ['-'] then -(year.natAbs : Int) else year.natAbs := by
    rw [Figure.value, valueOf_padded]
  rw [hvalue, yearSign]
  by_cases hplain : 0 ≤ year ∧ year ≤ 9999
  · rw [if_pos hplain, if_neg (by decide)]
    omega
  · rw [if_neg hplain]
    by_cases hneg : year < 0
    · rw [if_pos hneg, if_pos rfl]
      omega
    · rw [if_neg hneg, if_neg (by decide)]
      omega

theorem nanosOf_fractionDigits (h : n < 1000000000) : nanosOf (fractionDigits n) = n := by
  have hgroup : ∀ {size k}, 0 < size → size ≤ 9 → k < 10 ^ size → nanosOf (padded size k) = k * 10 ^ (9 - size) := by
    intro size k hsize hnine hk
    have hlength := length_padded hsize hk
    rw [nanosOf, List.take_of_length_le (by omega), valueOf_padded, hlength]
    rfl
  unfold fractionDigits
  split
  · rename_i hzero
    rw [hzero]
    rfl
  · split
    · rw [hgroup (by decide) (by decide) (by omega)]
      omega
    · split
      · rw [hgroup (by decide) (by decide) (by omega)]
        omega
      · rw [hgroup (by decide) (by decide) (by omega)]
        omega

theorem Clock.Valid.clock_eq (h : c.Valid) {r : Reading} (hhour : r.hour = c.hour) (hminute : r.minute = c.minute)
    (hsecond : r.second = c.second + c.nanos / 1000000000) (hnanos : r.nanos = c.nanos % 1000000000) : r.clock = c := by
  obtain ⟨hour, minute, second, nanos⟩ := c
  obtain ⟨-, -, hle, hbound⟩ := h
  dsimp only at hhour hminute hsecond hnanos hle hbound
  -- a leap second is read as the second 60, whose clock is that of the second 59 with more nanoseconds
  have hleap : r.second = 60 ↔ 1000000000 ≤ nanos := by omega
  unfold Reading.clock
  by_cases hlong : 1000000000 ≤ nanos
  · rw [if_pos (hleap.mpr hlong), hhour, hminute, Clock.mk.injEq]
    omega
  · rw [if_neg (hleap.not.mpr hlong), hhour, hminute, Clock.mk.injEq]
    omega

theorem Zone.east_ofOffset (h : -1440 < o ∧ o < 1440) : (Zone.ofOffset o).east = o := by
  rw [Zone.ofOffset, Zone.east, valueOf_padded, valueOf_padded]
  by_cases hneg : o < 0
  · rw [if_pos hneg, if_neg (by decide)]
    omega
  · rw [if_neg hneg, if_pos rfl]
    omega

theorem Timestamp.reading_form (t : Timestamp) : t.form.reading.hour = t.moment.clock.hour ∧
    t.form.reading.minute = t.moment.clock.minute ∧
    t.form.reading.second = t.moment.clock.second + t.moment.clock.nanos / 1000000000 ∧
    t.form.reading.nanos = nanosOf (fractionDigits (t.moment.clock.nanos % 1000000000)) := by
  have hplain : ∀ n, (Figure.plain 2 n).value.toNat = n := by
    intro n
    rw [value_plain, Int.toNat_natCast]
  cases t with
  | naive m => exact ⟨hplain _, hplain _, hplain _, rfl⟩
  | aware m o => exact ⟨hplain _, hplain _, hplain _, rfl⟩

theorem Timestamp.Valid.timestamp?_form (h : t.Valid) : t.form.reading.timestamp? = some t := by
  obtain ⟨hyear, hmonth, hday⟩ := t.form.reading_date
  have hdate : (⟨t.form.reading.year, t.form.reading.month, t.form.reading.day⟩ : Date) = t.moment.date := by
    rw [hyear, hmonth, hday]
    simp [form, Date.form, value_year, value_plain]
  have hclock : t.form.reading.clock = t.moment.clock := by
    obtain ⟨hhour, hminute, hsecond, hnanos⟩ := t.reading_form
    rw [nanosOf_fractionDigits (Nat.mod_lt _ (by decide))] at hnanos
    exact h.clock.clock_eq hhour hminute hsecond hnanos
  have hoffset : t.form.reading.offset = t.offset? := by
    rw [Form.reading_offset]
    cases t with
    | naive m => rfl
    | aware m o =>
      show some (Zone.ofOffset o).east = some o
      rw [Zone.east_ofOffset (h.offset o rfl).1]
  rw [Reading.timestamp?_eq_some_iff, hdate, hclock, hoffset]
  refine ⟨h.date, ?_⟩
  cases t with
  | naive m => exact .inl ⟨rfl, rfl⟩
  | aware m o => exact .inr ⟨o, rfl, rfl, (h.offset o rfl).2⟩

/-! ## The written form is accepted -/

theorem fits_plain (field : Field) (hfield : field ≠ .year) (hallows : field.Allows n) :
    (Figure.plain 2 n).Fits false field := by
  have hwidth : field.width = 2 := by
    cases field <;> first | rfl | exact absurd rfl hfield
  have hsmall : n < 10 ^ 2 := by
    cases field with
    | year => exact absurd rfl hfield
    | _ =>
      simp only [Field.Allows] at hallows
      omega
  refine (Figure.fits_plain (fun d hd => isDigit_of_mem_padded hd) ?_ ?_).lenient
  · rw [hwidth, length_padded (by decide) hsmall]
  · rw [valueOf_padded]
    exact hallows

theorem fits_year {year : Int} : (Figure.mk [] (yearSign year) (padded 4 year.natAbs)).Fits false .year := by
  refine ⟨⟨nofun, ?_, fun d hd => isDigit_of_mem_padded hd, padded_ne_nil, ?_⟩, trivial⟩
  · unfold yearSign
    split
    · exact .inl rfl
    · split
      · exact .inr ⟨rfl, List.mem_cons_of_mem _ List.mem_cons_self⟩
      · exact .inr ⟨rfl, List.mem_cons_self⟩
  · intro hsign
    by_cases hplain : 0 ≤ year ∧ year ≤ 9999
    · exact Nat.le_of_eq (length_padded (by decide) (by omega))
    · dsimp only at hsign
      rw [yearSign, if_neg hplain] at hsign
      split at hsign
      · cases hsign
      · cases hsign

theorem fits_date (h : d.isValid = true) : d.form.Fits false := by
  simp only [Date.isValid, Bool.and_eq_true, decide_eq_true_eq] at h
  obtain ⟨⟨⟨⟨-, hmonth⟩, hmonth'⟩, hday⟩, hday'⟩ := h
  have hlast := daysInMonth_le d.year d.month
  have hmonths : 1 ≤ (d.month : Int) ∧ (d.month : Int) ≤ 12 := by omega
  have hdays : 1 ≤ (d.day : Int) ∧ (d.day : Int) ≤ 31 := by omega
  exact ⟨fits_year, fits_plain .month (by decide) hmonths, fits_plain .day (by decide) hdays⟩

theorem isDigit_of_mem_fractionDigits {digit : Char} (h : digit ∈ fractionDigits n) : isDigit digit = true := by
  unfold fractionDigits at h
  split at h
  · cases h
  · split at h
    · exact isDigit_of_mem_padded h
    · split at h
      · exact isDigit_of_mem_padded h
      · exact isDigit_of_mem_padded h

theorem Clock.Valid.fits (h : c.Valid) : c.form.Fits false := by
  obtain ⟨hhour, hminute, hsecond, hnanos⟩ := h
  have hhours : 0 ≤ (c.hour : Int) ∧ (c.hour : Int) ≤ 23 := by omega
  have hminutes : 0 ≤ (c.minute : Int) ∧ (c.minute : Int) ≤ 59 := by omega
  have hseconds : 0 ≤ ((c.second + c.nanos / 1000000000 : Nat) : Int) ∧
      ((c.second + c.nanos / 1000000000 : Nat) : Int) ≤ 60 := by
    omega
  refine ⟨fits_plain .hour (by decide) hhours, fits_plain .minute (by decide) hminutes, ?_⟩
  rintro _ ⟨⟩
  exact ⟨fits_plain .second (by decide) hseconds, fun d hd => isDigit_of_mem_fractionDigits hd⟩

theorem fits_ofOffset (h : -1440 < o ∧ o < 1440) : (Zone.ofOffset o).Fits false := by
  have htwo : ∀ {greatest n}, n ≤ greatest → greatest < 10 ^ 2 → TwoDigits greatest (padded 2 n) := by
    intro greatest n hle hsmall
    exact ⟨fun d hd => isDigit_of_mem_padded hd, length_padded (by decide) (by omega), by rwa [valueOf_padded]⟩
  refine ⟨nofun, nofun, ?_, htwo (by omega) (by decide), fun c hc => .inl (List.mem_singleton.mp hc),
    htwo (by omega) (by decide)⟩
  split <;> decide

theorem Timestamp.Valid.lenient (h : t.Valid) : t.form.Lenient := by
  refine ⟨fits_date h.date, ?_, ?_⟩
  · rintro _ ⟨⟩
    refine ⟨.inl rfl, h.clock.fits, ?_⟩
    intro z hz
    obtain ⟨o, ho, rfl⟩ := Option.map_eq_some_iff.mp hz
    exact fits_ofOffset (h.offset o ho).1
  · rintro _ ⟨⟩ hmark
    cases hmark

theorem Timestamp.Valid.accepted (h : t.Valid) : t.form.Accepted := by
  refine h.lenient.accepted ?_
  rintro _ ⟨⟩
  show ['T'] ≠ ['t']
  decide

theorem Timestamp.Valid.trim_render (h : t.Valid) : trim t.render = t.render := by
  rw [← t.text_form]
  apply Query.trim_eq_self
  · have hyear : (Figure.mk [] (yearSign t.moment.date.year) (padded 4 t.moment.date.year.natAbs)).Lenient .year := fits_year.1
    simp only [form, Form.text, Date.form, DateForm.text, Figure.text, List.nil_append, List.append_assoc]
    exact fun c hc => (hyear.head c hc).1
  · obtain ⟨c, hc, hdigit⟩ := h.lenient.closesDigits
    intro c' hc'
    obtain rfl : c = c' := Option.some_inj.mp (hc.symm.trans hc')
    exact isBlank_of_isDigit hdigit

theorem Timestamp.Valid.read?_render (h : t.Valid) : Timestamp.read? t.render = some t := by
  refine read?_eq_some_iff.mpr ⟨t.form, h.accepted, ?_, h.timestamp?_form⟩
  rw [h.trim_render, t.text_form]

end

/-! ## The JSON string -/

section
variable {s : String} {t : Timestamp}

theorem outcome_readText (s : String) (rest : List Char) :
    outcome (readText (renderString s ++ rest)) = some (s, rest) := by
  have htext : renderString s ++ rest = '"' :: (s.toList.flatMap escapeChar ++ '"' :: rest) := by
    simp [renderString]
  have hskip := skipBlanks_cons (show Json.isBlank '"' = false by decide) (s.toList.flatMap escapeChar ++ '"' :: rest)
  rw [htext]
  unfold readText
  split
  · rename_i h
    rw [hskip] at h
    cases h
  · rename_i h
    rw [hskip] at h
    cases h
    rw [outcome_map _ String.ofList fun _ => ⟨rfl, rfl⟩, outcome_readChars, Option.map_some, String.ofList_toList]
  · rename_i hne h
    rw [hskip] at h
    cases h
    exact (hne rfl).elim

theorem parseJson_renderString (h : Timestamp.ofString? s = some t) :
    Timestamp.parseJson (String.ofList (renderString s)) = .ok t := by
  have hread := outcome_readText s []
  rw [List.append_nil] at hread
  obtain ⟨taken, htaken, hvalue, hrest⟩ := ok_of_outcome hread
  unfold Timestamp.parseJson readAll
  dsimp only
  rw [String.toList_ofList, htaken]
  dsimp only
  rw [hvalue, h]
  simp only [Except.map, Taken.map, hrest]
  rfl

/-- A timestamp that was read is read back from what it is written as, and from the JSON string of it. -/
theorem ofString?_render (h : Timestamp.ofString? s = some t) :
    Timestamp.ofString? (String.ofList t.render) = some t ∧
      Timestamp.parseJson (Value.time t).toJson.compact = .ok t ∧
      ∀ t', Timestamp.ofString? (String.ofList t.render) = some t' → t'.render = t.render := by
  have hread : Timestamp.ofString? (String.ofList t.render) = some t := by
    rw [Timestamp.ofString?, String.toList_ofList]
    exact (valid_of_read? h).read?_render
  refine ⟨hread, parseJson_renderString hread, ?_⟩
  intro t' ht'
  rw [hread] at ht'
  cases ht'
  rfl

/-- A leap second before the year 0, and a year of five digits. -/
theorem ofString?_render_leap :
    let leap : Timestamp := .aware ⟨⟨-5, 2, 3⟩, ⟨7, 8, 59, 1123456789⟩⟩ (-30)
    let late : Timestamp := .naive ⟨⟨12345, 10, 9⟩, ⟨5, 6, 0, 0⟩⟩
    (Timestamp.ofString? " -5- 2-3T7:8:60.1234567891 -0030" = some leap ∧
      leap.render = "-0005-02-03T07:08:60.123456789-00:30".toList ∧
      Timestamp.ofString? (String.ofList leap.render) = some leap ∧
      Timestamp.parseJson (Value.time leap).toJson.compact = .ok leap) ∧
    (Timestamp.ofString? "+12345-10-0905:6" = some late ∧ late.render = "+12345-10-09T05:06:00".toList ∧
      Timestamp.ofString? (String.ofList late.render) = some late) := by
  intro leap late
  have hleap : Timestamp.ofString? " -5- 2-3T7:8:60.1234567891 -0030" = some leap := by decide +kernel
  have hlate : Timestamp.ofString? "+12345-10-0905:6" = some late := by decide +kernel
  obtain ⟨hback, hjson, -⟩ := ofString?_render hleap
  exact ⟨⟨hleap, by decide +kernel, hback, hjson⟩, hlate, by decide +kernel, (ofString?_render hlate).1⟩

end

end DocStore.Time
