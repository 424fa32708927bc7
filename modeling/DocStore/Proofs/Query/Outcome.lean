import DocStore.Query.Condition

/-!
# One outcome for all operators

The four operators of order ask for one outcome of the stored value against the literal: the chronological order of two
dates of one kind, or else the order of two numbers (`satisfies_of_isOrdering`). So the operators never contradict each
other, and where a string meets a date the equality operators agree with the order, too (`operators_agree`).
-/

namespace DocStore.Query

def literalDate? : Value → Option Time.Timestamp
  | .time t => some t
  | .str s => Time.Timestamp.ofString? s
  | _ => none

def dateOutcome? (stored literal : Value) : Option Ordering := do
  let expected ← literalDate? literal
  let actual ← storedDate? stored
  actual.compare? expected

def outcome? (stored literal : Value) : Option Ordering :=
  (dateOutcome? stored literal).or (compareNumbers? stored literal)

section
variable {op : Operator} {stored literal : Value}

theorem dateFor?_of_isOrdering (h : op.isOrdering = true) : dateFor? op literal = literalDate? literal := by
  have hcomparison : op.isComparison = true := by
    cases op <;> first | rfl | cases h
  cases literal <;> simp [dateFor?, literalDate?, h, hcomparison]

theorem compareDates?_of_isOrdering (h : op.isOrdering = true) (actual expected : Time.Timestamp) :
    compareDates? op actual expected = (actual.compare? expected).map op.accepts := by
  cases op <;> first | rfl | cases h

theorem byValue_of_isOrdering (h : op.isOrdering = true) :
    byValue op stored literal = (compareNumbers? stored literal).any op.accepts := by
  cases op <;> first | rfl | cases h

theorem byDate?_of_isOrdering (h : op.isOrdering = true) :
    byDate? op stored literal = (dateOutcome? stored literal).map op.accepts := by
  rw [byDate?, dateOutcome?, dateFor?_of_isOrdering h]
  cases literalDate? literal with
  | none => rfl
  | some expected =>
    cases storedDate? stored with
    | none => rfl
    | some actual => exact compareDates?_of_isOrdering h actual expected

/-- An operator of order accepts the outcome or it does not. -/
theorem satisfies_of_isOrdering (h : op.isOrdering = true) :
    satisfies op stored literal = (outcome? stored literal).any op.accepts := by
  rw [satisfies, byDate?_of_isOrdering h, byValue_of_isOrdering h, outcome?]
  cases dateOutcome? stored literal <;> rfl

theorem satisfies_ne : satisfies .ne stored literal = !satisfies .eq stored literal := by
  have hdate : byDate? .ne stored literal = (byDate? .eq stored literal).map (! ·) := by
    cases literal with
    | time t =>
      have hne : dateFor? .ne (.time t) = some t := rfl
      have heq : dateFor? .eq (.time t) = some t := rfl
      rw [byDate?, byDate?, hne, heq]
      cases storedDate? stored <;> rfl
    | _ => rfl
  rw [satisfies, satisfies, hdate]
  cases byDate? .eq stored literal <;> rfl

/-! ## A string and a date -/

variable {s : String} {t : Time.Timestamp}

theorem outcome?_time : outcome? (.str s) (.time t) = (Time.Timestamp.ofString? s).bind (·.compare? t) := by
  have hnumbers : compareNumbers? (.str s) (.time t) = none := rfl
  rw [outcome?, hnumbers, Option.or_none]
  rfl

theorem satisfies_eq_time : satisfies .eq (.str s) (.time t) = decide (outcome? (.str s) (.time t) = some .eq) := by
  have hdate : byDate? .eq (.str s) (.time t) = (Time.Timestamp.ofString? s).map (·.same t) := by
    cases h : Time.Timestamp.ofString? s <;> simp [byDate?, dateFor?, storedDate?, compareDates?, Operator.isComparison, h]
  rw [satisfies, hdate, outcome?_time]
  cases Time.Timestamp.ofString? s with
  | none => rfl
  | some actual => rfl

end

/-- An absent field satisfies no operator. On a stored value, `!=` is the opposite of `==` and the operators of order go by
one outcome, which is that of `==` as well where a string is compared with a date. -/
theorem operators_agree (record : Record) (path : String) (literal : Value) :
    (resolve record path = none → ∀ op, holdsAt record path op literal = false) ∧
    ∀ stored, resolve record path = some stored →
      holdsAt record path .ne literal = !holdsAt record path .eq literal ∧
      ∃ o : Option Ordering,
        (holdsAt record path .gt literal = true ↔ o = some .gt) ∧
        (holdsAt record path .lt literal = true ↔ o = some .lt) ∧
        (holdsAt record path .ge literal = true ↔ o = some .gt ∨ o = some .eq) ∧
        (holdsAt record path .le literal = true ↔ o = some .lt ∨ o = some .eq) ∧
        ∀ s t, stored = .str s → literal = .time t →
          (holdsAt record path .eq literal = true ↔ o = some .eq) ∧
          (Time.Timestamp.ofString? s = none → o = none) ∧
          ∀ actual, Time.Timestamp.ofString? s = some actual → actual.isAware ≠ t.isAware → o = none := by
  constructor
  · intro habsent op
    rw [holdsAt, habsent]
    rfl
  · intro stored hstored
    have hholds : ∀ op, holdsAt record path op literal = satisfies op stored literal := by
      intro op
      rw [holdsAt, hstored]
      rfl
    simp only [hholds]
    refine ⟨satisfies_ne, outcome? stored literal, ?_, ?_, ?_, ?_, ?_⟩
    · rw [satisfies_of_isOrdering rfl]
      cases outcome? stored literal <;> simp [Operator.accepts]
    · rw [satisfies_of_isOrdering rfl]
      cases outcome? stored literal <;> simp [Operator.accepts]
    · rw [satisfies_of_isOrdering rfl]
      rcases outcome? stored literal with _ | _ | _ | _ <;> simp [Operator.accepts]
    · rw [satisfies_of_isOrdering rfl]
      rcases outcome? stored literal with _ | _ | _ | _ <;> simp [Operator.accepts]
    · rintro s t rfl rfl
      rw [outcome?_time]
      refine ⟨?_, ?_, ?_⟩
      · rw [satisfies_eq_time, outcome?_time, decide_eq_true_eq]
      · intro hs
        rw [hs]
        rfl
      · intro actual hs hkind
        rw [hs]
        simp [Time.Timestamp.compare?, hkind]

/-- A date without an offset and its midnight at offset zero are apart, but in no order. -/
theorem operators_agree_midnight :
    holdsAt (.ofList [("d", .str "2025-08-01")]) "e" .ne (.time (.aware ⟨⟨2025, 8, 1⟩, ⟨0, 0, 0, 0⟩⟩ 0)) = false ∧
      holdsAt (.ofList [("d", .str "2025-08-01")]) "d" .ne (.time (.aware ⟨⟨2025, 8, 1⟩, ⟨0, 0, 0, 0⟩⟩ 0)) = true ∧
      holdsAt (.ofList [("d", .str "2025-08-01")]) "d" .ge (.time (.aware ⟨⟨2025, 8, 1⟩, ⟨0, 0, 0, 0⟩⟩ 0)) = false := by
  obtain ⟨hne, o, -, -, hge, -, hdates⟩ := (operators_agree (.ofList [("d", .str "2025-08-01")]) "d"
    (.time (.aware ⟨⟨2025, 8, 1⟩, ⟨0, 0, 0, 0⟩⟩ 0))).2 _ rfl
  obtain ⟨heq, -, hkinds⟩ := hdates _ _ rfl rfl
  have hread : Time.Timestamp.ofString? "2025-08-01" = some (.naive ⟨⟨2025, 8, 1⟩, ⟨0, 0, 0, 0⟩⟩) := by decide +kernel
  obtain rfl : o = none := hkinds _ hread (by decide)
  refine ⟨(operators_agree _ _ _).1 rfl .ne, ?_, Bool.eq_false_iff.mpr fun h => ?_⟩
  · rw [hne, Bool.eq_false_iff.mpr fun h => nomatch heq.mp h]
    rfl
  · rcases hge.mp h with h | h <;> cases h

end DocStore.Query
