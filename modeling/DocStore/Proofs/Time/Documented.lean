import DocStore.Proofs.Time.Accepted

/-!
# The documented forms

The documented forms have four digits for the year and two for every other number. All of them are read if the date is real
(`documented_read`), but the accepted forms are many more.
-/

namespace DocStore.Time

open Decimal (isDigit valueOf valueOf_lt)
open Text (trim)

/-! ## What a form shows -/

def Form.zone? (w : Form) : Option Zone :=
  w.time?.bind (·.zone?)

section
variable {w : Form} {r : Reading} {t : Timestamp} {f : Figure} {ds : List Char}

theorem Form.reading_date (w : Form) : w.reading.year = w.date.year.value ∧ w.reading.month = w.date.month.value.toNat ∧
    w.reading.day = w.date.day.value.toNat := by
  obtain ⟨d, _ | ⟨mark, ⟨hour, minute, _ | ⟨f, ds⟩⟩, _ | z⟩⟩ := w
  all_goals exact ⟨rfl, rfl, rfl⟩

theorem Form.reading_offset (w : Form) : w.reading.offset = w.zone?.map Zone.east := by
  obtain ⟨d, _ | ⟨mark, ⟨hour, minute, _ | ⟨f, ds⟩⟩, _ | z⟩⟩ := w
  all_goals rfl

theorem nanosOf_lt (h : ∀ d ∈ ds, isDigit d = true) : nanosOf ds < 1000000000 := by
  have hvalue : valueOf (ds.take 9) < 10 ^ (ds.take 9).length := valueOf_lt fun d hd => h d (List.mem_of_mem_take hd)
  have hpow : 10 ^ (ds.take 9).length * 10 ^ (9 - ds.length) = 10 ^ 9 := by
    rw [← Nat.pow_add, List.length_take]
    congr 1
    omega
  calc nanosOf ds = valueOf (ds.take 9) * 10 ^ (9 - ds.length) := rfl
    _ < 10 ^ (ds.take 9).length * 10 ^ (9 - ds.length) := Nat.mul_lt_mul_of_pos_right hvalue (Nat.pow_pos (by decide))
    _ = 10 ^ 9 := hpow

theorem Zone.Accepted.east_bound {z : Zone} (h : z.Accepted) : -1440 < z.east ∧ z.east < 1440 := by
  cases z with
  | letter blanks c =>
    rw [Zone.east]
    decide
  | offset blanks sign hours mark minutes =>
    obtain ⟨-, -, -, hhours, -, hminutes⟩ := h
    have hhours := hhours.le
    have hminutes := hminutes.le
    rw [Zone.east]
    split <;> omega

/-- The numbers of a clock and of an offset in their bounds. The second 60 is still there. -/
structure Reading.Bounded (r : Reading) : Prop where
  hour : r.hour ≤ 23
  minute : r.minute ≤ 59
  second : r.second ≤ 60
  nanos : r.nanos < 1000000000
  offset : ∀ o ∈ r.offset, -1440 < o ∧ o < 1440

theorem Form.Accepted.bounded (h : w.Accepted) : w.reading.Bounded := by
  obtain ⟨d, _ | ⟨mark, ⟨hour, minute, second?⟩, zone?⟩⟩ := w
  · exact ⟨Nat.zero_le _, Nat.zero_le _, Nat.zero_le _, Nat.zero_lt_succ _, nofun⟩
  · obtain ⟨-, hclock, hzone⟩ := h.time _ rfl
    have hhour : 0 ≤ hour.value ∧ hour.value ≤ 23 := hclock.hour.2
    have hminute : 0 ≤ minute.value ∧ minute.value ≤ 59 := hclock.minute.2
    have hoffset : ∀ o ∈ (Form.mk d (some ⟨mark, ⟨hour, minute, second?⟩, zone?⟩)).reading.offset, -1440 < o ∧ o < 1440 := by
      intro o ho
      rw [Form.reading_offset] at ho
      obtain ⟨z, hz, rfl⟩ := Option.map_eq_some_iff.mp ho
      exact (hzone z hz).east_bound
    obtain ⟨hsecond, hnanos⟩ : (ClockForm.put ⟨hour, minute, second?⟩ (d.put {})).second ≤ 60 ∧
        (ClockForm.put ⟨hour, minute, second?⟩ (d.put {})).nanos < 1000000000 := by
      cases second? with
      | none => exact ⟨Nat.zero_le _, Nat.zero_lt_succ _⟩
      | some p =>
        obtain ⟨hf, hds⟩ := hclock.second p rfl
        have hvalue : 0 ≤ p.1.value ∧ p.1.value ≤ 60 := hf.2
        exact ⟨show p.1.value.toNat ≤ 60 by omega, nanosOf_lt hds⟩
    cases zone? <;> cases second?
    all_goals exact ⟨show hour.value.toNat ≤ 23 by omega, show minute.value.toNat ≤ 59 by omega, hsecond, hnanos, hoffset⟩

theorem Reading.timestamp?_eq_some_iff : r.timestamp? = some t ↔ (⟨r.year, r.month, r.day⟩ : Date).isValid = true ∧
    ((r.offset = none ∧ t = .naive ⟨⟨r.year, r.month, r.day⟩, r.clock⟩) ∨
      ∃ o, r.offset = some o ∧ t = .aware ⟨⟨r.year, r.month, r.day⟩, r.clock⟩ o ∧ inRange t.seconds = true) := by
  unfold Reading.timestamp? Reading.moment?
  dsimp only
  by_cases hvalid : (⟨r.year, r.month, r.day⟩ : Date).isValid = true
  · rw [if_pos hvalid]
    cases hoffset : r.offset with
    | none =>
      simp only [hvalid, Option.bind_eq_bind, Option.bind_some, true_and, reduceCtorEq, false_and, exists_false, or_false]
      exact Option.some_inj.trans eq_comm
    | some o =>
      simp only [hvalid, Option.bind_eq_bind, Option.bind_some, true_and, reduceCtorEq, false_and, false_or, Option.some.injEq]
      constructor
      · intro h
        split at h
        · rename_i hrange
          cases h
          exact ⟨o, rfl, rfl, hrange⟩
        · cases h
      · rintro ⟨_, rfl, rfl, hrange⟩
        rw [if_pos hrange]
        rfl
  · rw [if_neg hvalid]
    exact ⟨nofun, fun h => absurd h.1 hvalid⟩

end

/-! ## The documented forms -/

def Zone.Documented : Zone → Prop
  | letter blanks c => blanks = [] ∧ c = 'Z'
  | offset blanks sign hours mark minutes =>
    blanks = [] ∧ sign ∈ ['+', '-'] ∧ TwoDigits 23 hours ∧ mark = [':'] ∧ TwoDigits 59 minutes

/-- A real date in figures of full width, with `T` or a space before the clock. -/
structure Form.Documented (w : Form) : Prop where
  date : w.date.Fits true
  real : w.date.day.value ≤ daysInMonth w.date.year.value w.date.month.value.toNat
  mark : ∀ t ∈ w.time?, t.mark = ['T'] ∨ t.mark = [' ']
  clock : ∀ t ∈ w.time?, t.clock.Fits true
  zone : ∀ t ∈ w.time?, ∀ z ∈ t.zone?, z.Documented

section
variable {w : Form} {m : Moment} {o : Int}

theorem Zone.Documented.accepted {z : Zone} (h : z.Documented) : z.Accepted := by
  cases z with
  | letter blanks c =>
    obtain ⟨rfl, rfl⟩ := h
    exact ⟨nofun, .inl rfl⟩
  | offset blanks sign hours mark minutes =>
    obtain ⟨rfl, hsign, hhours, rfl, hminutes⟩ := h
    have hsigns : ∀ sign ∈ ['+', '-'], sign ∈ signs := by decide
    exact ⟨nofun, nofun, hsigns sign hsign, hhours, fun c hc => .inl (List.mem_singleton.mp hc), hminutes⟩

theorem Form.Documented.accepted (h : w.Documented) : w.Accepted := by
  refine ⟨h.date.lenient, ?_, ?_, ?_⟩
  · intro t ht
    refine ⟨?_, (h.clock t ht).lenient, fun z hz => (h.zone t ht z hz).accepted⟩
    refine (h.mark t ht).imp_right fun hspace => .inr ⟨?_, (h.clock t ht).hour.1.blanks⟩
    rw [hspace]
    decide
  · intro t ht hnil
    have hmark := h.mark t ht
    rw [hnil] at hmark
    exact absurd hmark (by decide)
  · intro t ht hsmall
    have hmark := h.mark t ht
    rw [hsmall] at hmark
    exact absurd hmark (by decide)

theorem Figure.fits_plain {field : Field} {ds : List Char} (hds : ∀ d ∈ ds, isDigit d = true)
    (hwidth : ds.length = field.width) (hallows : field.Allows (valueOf ds)) : (Figure.mk [] [] ds).Fits true field :=
  ⟨⟨rfl, rfl, hds, hwidth⟩, hallows⟩

theorem Figure.Strict.value_bound {f : Figure} {field : Field} (h : f.Strict field) :
    0 ≤ f.value ∧ f.value < (10 ^ field.width : Nat) := by
  have hvalue := valueOf_lt h.digits
  rw [h.width] at hvalue
  rw [Figure.value, if_neg (by simp [h.sign])]
  omega

theorem daysInMonth_le (year : Int) (month : Nat) : daysInMonth year month ≤ 31 := by
  unfold daysInMonth
  split
  · split <;> decide
  · split <;> decide

theorem daysBefore_le (year : Int) (month : Nat) : daysBefore year month ≤ 31 * (month - 1) := by
  rw [daysBefore]
  induction month - 1 with
  | zero => exact Nat.le_refl 0
  | succ n ih =>
    rw [List.range_succ, List.foldl_append, List.foldl_cons, List.foldl_nil]
    have hlast := daysInMonth_le year (n + 1)
    omega

theorem inRange_of_year (hyear : 0 ≤ m.date.year ∧ m.date.year ≤ 9999) (hmonth : m.date.month ≤ 12) (hday : m.date.day ≤ 31)
    (hhour : m.clock.hour ≤ 23) (hminute : m.clock.minute ≤ 59) (hsecond : m.clock.second ≤ 60)
    (ho : -1440 < o ∧ o < 1440) : inRange (Timestamp.aware m o).seconds = true := by
  -- the documented years are far from both ends, so rough bounds on the days will do
  have hmin : (⟨minYear, 1, 1⟩ : Date).number = -95746130 := by decide
  have hmax : (⟨maxYear + 1, 1, 1⟩ : Date).number = 95745399 := by decide
  have hdays := daysBefore_le m.date.year m.date.month
  have hclock : m.clock.seconds ≤ 86400 := by
    rw [Clock.seconds]
    omega
  have hnumber : -1000 ≤ m.date.number ∧ m.date.number ≤ 4000000 := by
    rw [Date.number]
    omega
  rw [inRange, hmin, hmax, Timestamp.seconds, Moment.seconds, secondsPerDay]
  simp only [Bool.and_eq_true, decide_eq_true_eq]
  omega

theorem Form.Documented.timestamp? (h : w.Documented) :
    ∃ t, w.reading.timestamp? = some t ∧ t.isAware = w.zone?.isSome := by
  obtain ⟨hyear, hmonth, hday⟩ := w.reading_date
  have hyears : 0 ≤ w.date.year.value ∧ w.date.year.value < (10 ^ 4 : Nat) := h.date.year.1.value_bound
  have hmonths : 1 ≤ w.date.month.value ∧ w.date.month.value ≤ 12 := h.date.month.2
  have hdays : 1 ≤ w.date.day.value ∧ w.date.day.value ≤ 31 := h.date.day.2
  have hreal := h.real
  have hbounded := h.accepted.bounded
  have hvalid : (⟨w.reading.year, w.reading.month, w.reading.day⟩ : Date).isValid = true := by
    rw [hyear, hmonth, hday]
    simp only [Date.isValid, Bool.and_eq_true, decide_eq_true_eq]
    rw [minYear, maxYear]
    omega
  cases hzone : w.zone? with
  | none =>
    refine ⟨_, Reading.timestamp?_eq_some_iff.mpr ⟨hvalid, .inl ⟨?_, rfl⟩⟩, rfl⟩
    rw [w.reading_offset, hzone]
    rfl
  | some z =>
    have hoffset : w.reading.offset = some z.east := by
      rw [w.reading_offset, hzone]
      rfl
    refine ⟨_, Reading.timestamp?_eq_some_iff.mpr ⟨hvalid, .inr ⟨_, hoffset, rfl, ?_⟩⟩, rfl⟩
    have hclock : w.reading.clock.hour ≤ 23 ∧ w.reading.clock.minute ≤ 59 ∧ w.reading.clock.second ≤ 60 := by
      have hhour := hbounded.hour
      have hminute := hbounded.minute
      have hsecond := hbounded.second
      unfold Reading.clock
      split
      · exact ⟨hhour, hminute, show 59 ≤ 60 by decide⟩
      · exact ⟨hhour, hminute, hsecond⟩
    refine inRange_of_year ?_ ?_ ?_ hclock.1 hclock.2.1 hclock.2.2 (hbounded.offset _ hoffset)
    · show 0 ≤ w.reading.year ∧ w.reading.year ≤ 9999
      omega
    · show w.reading.month ≤ 12
      omega
    · show w.reading.day ≤ 31
      omega

theorem Form.Documented.length_text (h : w.Documented) : 10 ≤ w.text.length := by
  have hyear : w.date.year.digits.length = 4 := h.date.year.1.width
  have hmonth : w.date.month.digits.length = 2 := h.date.month.1.width
  have hday : w.date.day.digits.length = 2 := h.date.day.1.width
  simp only [Form.text, DateForm.text, Figure.text, List.length_append, List.length_cons]
  omega

end

/-- The documented texts of real dates are timestamps, which have an offset if they show one. All in all, the texts of
accepted forms are. -/
theorem ofString?_forms (s : String) :
    (∀ w : Form, w.Documented → trim s.toList = w.text →
      ∃ t, Timestamp.ofString? s = some t ∧ t.isAware = w.zone?.isSome) ∧
    ∀ t, Timestamp.ofString? s = some t ↔
      ∃ w : Form, w.Accepted ∧ trim s.toList = w.text ∧ w.reading.timestamp? = some t := by
  constructor
  · intro w hw htext
    obtain ⟨t, ht, haware⟩ := hw.timestamp?
    exact ⟨t, read?_eq_some_iff.mpr ⟨w, hw.accepted, htext, ht⟩, haware⟩
  · intro t
    exact read?_eq_some_iff

/-- A leap second on a leap day to the west, and a short date that is read though it is not documented. -/
theorem ofString?_forms_short :
    (∃ t, Timestamp.ofString? " 2024-02-29 23:59:60.5-00:30 " = some t ∧ t.isAware = true) ∧
      Timestamp.ofString? "2025-8-1" = some (.naive ⟨⟨2025, 8, 1⟩, ⟨0, 0, 0, 0⟩⟩) ∧
      ∀ w : Form, w.Documented → trim "2025-8-1".toList ≠ w.text := by
  have hdigits : ∀ ds ∈ ["2024", "02", "29", "23", "59", "60", "5", "00", "30"], ∀ d ∈ ds.toList, isDigit d = true := by
    decide
  have hlong := (ofString?_forms " 2024-02-29 23:59:60.5-00:30 ").1
    ⟨⟨⟨[], [], "2024".toList⟩, ⟨[], [], "02".toList⟩, ⟨[], [], "29".toList⟩⟩,
      some ⟨[' '], ⟨⟨[], [], "23".toList⟩, ⟨[], [], "59".toList⟩, some (⟨[], [], "60".toList⟩, "5".toList)⟩,
        some (.offset [] '-' "00".toList [':'] "30".toList)⟩⟩
  refine ⟨hlong ⟨⟨?_, ?_, ?_⟩, ?_, ?_, ?_, ?_⟩ (by decide), ?_, ?_⟩
  · exact Figure.fits_plain (hdigits _ (by decide)) rfl trivial
  · exact Figure.fits_plain (hdigits _ (by decide)) rfl (by decide)
  · exact Figure.fits_plain (hdigits _ (by decide)) rfl (by decide)
  · decide
  · rintro _ ⟨⟩
    exact .inr rfl
  · rintro _ ⟨⟩
    refine ⟨Figure.fits_plain (hdigits _ (by decide)) rfl (by decide),
      Figure.fits_plain (hdigits _ (by decide)) rfl (by decide), ?_⟩
    rintro _ ⟨⟩
    exact ⟨Figure.fits_plain (hdigits _ (by decide)) rfl (by decide), hdigits _ (by decide)⟩
  · rintro _ ⟨⟩ _ ⟨⟩
    exact ⟨rfl, by decide, ⟨hdigits _ (by decide), rfl, by decide⟩, rfl, ⟨hdigits _ (by decide), rfl, by decide⟩⟩
  · decide
  · intro w hw htext
    have hlength := hw.length_text
    rw [← htext] at hlength
    exact absurd hlength (by decide)

end DocStore.Time
