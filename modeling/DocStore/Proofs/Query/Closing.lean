import DocStore.Proofs.Query.Malformed

/-!
# A closing parenthesis that no group opened

Behind tokens without parentheses a closing one ends the level, and what follows it does not matter, unless these
tokens break off within a condition. Then it counts as one of the three tokens that the condition needs, and if there
are as many, reading goes on behind them (`run_closing`).
-/

namespace DocStore.Query

/-! ## Reading on in front of a boundary -/

theorem EndsValue.takeWhile_append {rest : List Token} (h : EndsValue rest) (ts : List Token) :
    (ts ++ rest).takeWhile (!·.isBoundary) = ts.takeWhile (!·.isBoundary) := by
  induction ts with
  | nil =>
    cases rest with
    | nil => rfl
    | cons t us => simp [h t rfl]
  | cons t ts ih => rw [List.cons_append, List.takeWhile_cons, List.takeWhile_cons, ih]

theorem EndsValue.dropWhile_append {rest : List Token} (h : EndsValue rest) (ts : List Token) :
    (ts ++ rest).dropWhile (!·.isBoundary) = ts.dropWhile (!·.isBoundary) ++ rest := by
  induction ts with
  | nil =>
    cases rest with
    | nil => rfl
    | cons t us => simp [h t rfl]
  | cons t ts ih =>
    rw [List.cons_append, List.dropWhile_cons, List.dropWhile_cons, ih]
    split <;> rfl

theorem readCondition?_append {ts after rest : List Token} {condition : Condition} (hv : EndsValue rest)
    (h : readCondition? ts = some (condition, after)) :
    readCondition? (ts ++ rest) = some (condition, after ++ rest) := by
  match ts, h with
  | field :: sign :: value :: values, h =>
    cases h
    simp only [List.cons_append, readCondition?]
    rw [← List.cons_append, hv.takeWhile_append, hv.dropWhile_append]

section
variable {ts rest : List Token} {step : Step}

theorem move_append (hs : step ≠ .test false none) (h : move ts = .pass step rest) {others : List Token}
    (hv : EndsValue others) : move (ts ++ others) = .pass step (rest ++ others) := by
  cases front_of_move h with
  | join join word => exact move_join join word (rest ++ others)
  | lacking => exact absurd rfl hs
  | test hb hp hr =>
    have hr' := readCondition?_append hv hr
    rw [List.cons_append] at hr' ⊢
    rw [move_plain hb hp, hr']
  | @notTest word us condition _ hp hr =>
    have hhead : ∀ t ∈ (us ++ others).head?, t.kind ≠ .lparen := by
      cases us with
      | nil => cases hr
      | cons => exact hp
    rw [List.cons_append, move_not hhead, readCondition?_append hv hr]

theorem move_append_of_none (h : move ts = .pass (.test false none) rest) (others : List Token) :
    move (ts ++ others) = match readCondition? (ts ++ others) with
      | none => .pass (.test false none) (rest ++ others)
      | some (condition, after) => .pass (.test false (some condition)) after := by
  cases front_of_move h with
  | lacking hb hp => exact move_plain hb hp (rest ++ others)

theorem move_append_of_spoil (h : move ts = .spoil) {others : List Token} (hv : EndsValue others) :
    move (ts ++ others) = match readCondition? (ts.tail ++ others) with
      | none => .spoil
      | some (condition, after) => .pass (.test true (some condition)) after := by
  cases front_of_move h with
  | @notLacking word us hp =>
    refine move_not ?_ word
    cases us with
    | nil => exact fun t ht => not_lparen_of_boundary (hv t ht)
    | cons => exact hp

theorem eq_nil_of_stop (h : move ts = .stop) (hp : ∀ t ∈ ts, t.kind ≠ .rparen) : ts = [] := by
  cases front_of_move h with
  | nil => rfl
  | rparen hk => exact absurd hk (hp _ List.mem_cons_self)

theorem move_ne_enter (hp : ∀ t ∈ ts, t.kind ≠ .lparen) (negated : Bool) : move ts ≠ .enter negated rest := by
  intro h
  cases front_of_move h with
  | lparen hk => exact hp _ List.mem_cons_self hk
  | notGroup hk => exact hp _ (List.mem_cons_of_mem _ List.mem_cons_self) hk

end

/-! ## Where tokens break off -/

/-- The beginning of a condition, maybe negated, and the steps that are read before it. -/
structure BrokenOff where
  before : List Step
  negated : Bool
  beginning : List Token

def BrokenOff.after (step : Step) (b : BrokenOff) : BrokenOff :=
  { b with before := step :: b.before }

def brokenOff? (ts : List Token) : Option BrokenOff :=
  match _ : move ts with
  | .pass (.test false none) _ => some ⟨[], false, ts⟩
  | .pass step rest => (brokenOff? rest).map (.after step)
  | .spoil => some ⟨[], true, ts.tail⟩
  | _ => none
termination_by ts.length
decreasing_by exact length_lt_of_pass ‹_›

section
variable {ts rest : List Token} {step : Step}

theorem brokenOff?_of_none (h : move ts = .pass (.test false none) rest) : brokenOff? ts = some ⟨[], false, ts⟩ := by
  rw [brokenOff?]; split <;> simp_all

theorem brokenOff?_of_pass (hs : step ≠ .test false none) (h : move ts = .pass step rest) :
    brokenOff? ts = (brokenOff? rest).map (.after step) := by
  rw [brokenOff?]; split <;> simp_all

theorem brokenOff?_of_spoil (h : move ts = .spoil) : brokenOff? ts = some ⟨[], true, ts.tail⟩ := by
  rw [brokenOff?]; split <;> simp_all

theorem brokenOff?_of_not_pass (hpass : ∀ step rest, move ts ≠ .pass step rest) (hspoil : move ts ≠ .spoil) :
    brokenOff? ts = none := by
  rw [brokenOff?]; split <;> simp_all

/-- What is left is the end of the tokens, and too short for a condition. -/
theorem beginning_of_brokenOff? {b : BrokenOff} (hb : brokenOff? ts = some b) :
    b.beginning <:+ ts ∧ b.beginning.length < 3 := by
  induction ts using brokenOff?.induct generalizing b with
  | case1 ts rest hm =>
    rw [brokenOff?_of_none hm] at hb
    cases hb
    cases front_of_move hm with
    | lacking _ _ hr => exact ⟨List.suffix_rfl, readCondition?_eq_none_iff.mp hr⟩
  | case2 ts step rest hs hm ih =>
    rw [brokenOff?_of_pass hs hm, Option.map_eq_some_iff] at hb
    obtain ⟨b', hb', rfl⟩ := hb
    obtain ⟨hsuffix, hlength⟩ := ih hb'
    exact ⟨hsuffix.trans (suffix_of_pass hm), hlength⟩
  | case3 ts hm =>
    rw [brokenOff?_of_spoil hm] at hb
    cases hb
    cases front_of_move hm with
    | notLacking _ hr => exact ⟨List.suffix_cons _ _, readCondition?_eq_none_iff.mp hr⟩
  | case4 ts _ hpass hspoil =>
    rw [brokenOff?_of_not_pass hpass hspoil] at hb
    cases hb

end

/-- Tokens without parentheses break off unless every condition in them is complete. -/
theorem brokenOff?_eq_none_iff {limit : Nat} {c : Cursor} {p : List Token} {r : Reading} (h : Reads limit c p r)
    (hp : ∀ t ∈ p, t.kind ≠ .lparen) :
    brokenOff? p = none ↔ r.spoiled = false ∧ ∀ step ∈ r.steps, step ≠ .test false none := by
  induction h with
  | @stop c ts hm =>
    have hnone : brokenOff? ts = none := brokenOff?_of_not_pass (by simp [hm]) (by simp [hm])
    simp [hnone]
  | spoil hm => simp [brokenOff?_of_spoil hm]
  | @pass c ts step rest r hm _ ih =>
    by_cases hs : step = .test false none
    · subst hs
      simp [brokenOff?_of_none hm]
    · have hrest := ih fun t ht => hp t ((suffix_of_pass hm).mem ht)
      simp [brokenOff?_of_pass hs hm, hrest, hs]
  | full hm => exact absurd hm (move_ne_enter hp _)
  | exhaust hm => exact absurd hm (move_ne_enter hp _)
  | group hm => exact absurd hm (move_ne_enter hp _)

/-! ## What a closing parenthesis does -/

section
variable {limit : Nat} {c : Cursor} {k : Token} (hk : k.kind = .rparen) (s : List Token)
include hk

theorem move_rparen : move (k :: s) = .stop := by
  simp [move, hk]

theorem endsValue_rparen : EndsValue (k :: s) := by
  intro t ht; cases ht; simp [Token.isBoundary, hk]

/-- It ends the level if it does not fit into a condition. -/
theorem reads_closing {p : List Token} (hp : ∀ t ∈ p, t.kind ≠ .lparen ∧ t.kind ≠ .rparen)
    (h : ∀ b ∈ brokenOff? p, readCondition? (b.beginning ++ k :: s) = none) :
    ∃ r rest, Reads limit c p r ∧ Reads limit c (p ++ k :: s) { r with rest := rest } := by
  induction p using brokenOff?.induct with
  | case1 ts rest hm =>
    have hnone : readCondition? (ts ++ k :: s) = none := h _ (brokenOff?_of_none hm)
    have hm' := move_append_of_none hm (k :: s)
    rw [hnone] at hm'
    -- not three tokens even with the parenthesis, so the field was the last token before it
    have hrest : rest = [] := by
      have hts := length_lt_of_pass hm
      have hlength := readCondition?_eq_none_iff.mp hnone
      rw [List.length_append, List.length_cons] at hlength
      exact List.eq_nil_of_length_eq_zero (by omega)
    subst hrest
    exact ⟨_, k :: s, .pass hm (.stop rfl), .pass hm' (.stop (move_rparen hk s))⟩
  | case2 ts step rest hs hm ih =>
    have hrest : ∀ b ∈ brokenOff? rest, readCondition? (b.beginning ++ k :: s) = none := by
      intro b hb
      have hb' : b.after step ∈ brokenOff? ts := by
        rw [brokenOff?_of_pass hs hm]; exact Option.mem_map_of_mem _ hb
      exact h (b.after step) hb'
    obtain ⟨r, others, hr, hr'⟩ := ih (fun t ht => hp t ((suffix_of_pass hm).mem ht)) hrest
    exact ⟨r.after step, others, .pass hm hr, .pass (move_append hs hm (endsValue_rparen hk s)) hr'⟩
  | case3 ts hm =>
    have hnone : readCondition? (ts.tail ++ k :: s) = none := h _ (brokenOff?_of_spoil hm)
    have hm' := move_append_of_spoil hm (endsValue_rparen hk s)
    rw [hnone] at hm'
    exact ⟨.spoil c, [], .spoil hm, .spoil hm'⟩
  | case4 ts _ hpass hspoil =>
    have hstop : move ts = .stop := by
      cases hm : move ts with
      | stop => rfl
      | spoil => exact (hspoil hm).elim
      | pass step rest => exact (hpass step rest hm).elim
      | enter negated inside => exact absurd hm (move_ne_enter (fun t ht => (hp t ht).1) negated)
    obtain rfl := eq_nil_of_stop hstop fun t ht => (hp t ht).2
    exact ⟨_, k :: s, .stop rfl, .stop (move_rparen hk s)⟩

/-- It is read as part of a condition that it fits into. -/
theorem reads_condition_with_closing {p : List Token} {b : BrokenOff} (hb : brokenOff? p = some b)
    {condition : Condition} {after : List Token}
    (h : readCondition? (b.beginning ++ k :: s) = some (condition, after)) {r : Reading} (hr : Reads limit c after r) :
    Reads limit c (p ++ k :: s) (r.before (b.before ++ [.test b.negated (some condition)])) := by
  induction p using brokenOff?.induct generalizing b with
  | case1 ts rest hm =>
    rw [brokenOff?_of_none hm] at hb
    cases hb
    have hm' := move_append_of_none hm (k :: s)
    rw [h] at hm'
    exact .pass hm' hr
  | case2 ts step rest hs hm ih =>
    rw [brokenOff?_of_pass hs hm, Option.map_eq_some_iff] at hb
    obtain ⟨b', hb', rfl⟩ := hb
    exact .pass (move_append hs hm (endsValue_rparen hk s)) (ih hb' h)
  | case3 ts hm =>
    rw [brokenOff?_of_spoil hm] at hb
    cases hb
    have hm' := move_append_of_spoil hm (endsValue_rparen hk s)
    rw [h] at hm'
    exact .pass hm' hr
  | case4 ts _ hpass hspoil =>
    rw [brokenOff?_of_not_pass hpass hspoil] at hb
    cases hb

/-- A closing parenthesis behind tokens without parentheses. If they do not break off, or too few tokens follow, the
query is worth what it is worth without it and without what follows. Else it is one of the tokens of the condition
that the query breaks off in, and what stands behind that condition counts as well. -/
theorem run_closing {p : List Token} (hp : ∀ t ∈ p, t.kind ≠ .lparen ∧ t.kind ≠ .rparen) (limit : Nat)
    (record : Record) :
    ((∀ b ∈ brokenOff? p, readCondition? (b.beginning ++ k :: s) = none) →
      run limit (p ++ k :: s) record = run limit p record) ∧
    ∀ b ∈ brokenOff? p, b.beginning <:+ p ∧ b.beginning.length < 3 ∧
      ∀ condition after, readCondition? (b.beginning ++ k :: s) = some (condition, after) →
        let pending := (applySteps record {} b.before).push (b.negated ^^ condition.holds record)
        let level := readLevel limit {} after
        run limit (p ++ k :: s) record =
          (!level.spoiled && (applySteps record pending level.steps).value && !level.cursor.exhausted,
            level.cursor) := by
  constructor
  · intro h
    obtain ⟨r, rest, hr, hr'⟩ := reads_closing hk s hp h
    rw [run_eq hr, run_eq hr']
    rfl
  · intro b hb
    obtain ⟨hsuffix, hlength⟩ := beginning_of_brokenOff? hb
    refine ⟨hsuffix, hlength, ?_⟩
    intro condition after hcondition pending level
    have hr := reads_condition_with_closing hk s hb hcondition (reads_readLevel limit {} after)
    rw [run_eq hr]
    simp only [Reading.holds, Reading.before, applySteps_append]
    rfl

end

/-- `a`, and what stands behind `a )` in `a ) x or b == 2`. -/
def fieldAlone : List Token :=
  [.ofText ['a']]

def behindField : List Token :=
  [.ofText ['x'], .ofText ['o', 'r'], .ofText ['b'], .ofText ['=', '='], .ofText ['2']]

theorem run_closing_field :
    (∀ t ∈ fieldAlone, t.kind ≠ .lparen ∧ t.kind ≠ .rparen) ∧ closing.kind = .rparen ∧
      (run 64 (fieldAlone ++ closing :: behindField) [("b", .int 2)]).1 = true ∧
      (run 64 fieldAlone [("b", .int 2)]).1 = false := by
  have hp : ∀ t ∈ fieldAlone, t.kind ≠ .lparen ∧ t.kind ≠ .rparen := by decide
  have hk : closing.kind = .rparen := rfl
  have hmove : move fieldAlone = .pass (.test false none) [] := rfl
  obtain ⟨_, _, h⟩ := (run_closing hk behindField hp 64 [("b", .int 2)]).2 _ (brokenOff?_of_none hmove)
  refine ⟨hp, hk, ?_, ?_⟩
  · rw [h _ _ rfl]; decide +kernel
  · decide +kernel

/-- A well-formed query does not break off, with groups in it or without. -/
theorem Expr.run_rparen (e : Expr) {limit : Nat} (hd : e.depth ≤ limit) {k : Token} (hk : k.kind = .rparen)
    (s : List Token) (record : Record) : run limit (e.tokens ++ k :: s) record = run limit e.tokens record := by
  have hdepth : ({} : Cursor).depth + e.depth ≤ limit := by simpa using hd
  have hr : Reads limit {} (e.tokens ++ k :: s) ⟨e.steps, false, {}, k :: s⟩ := e.reads rfl hdepth (move_rparen hk s)
  have hr' : Reads limit {} (e.tokens ++ []) ⟨e.steps, false, {}, []⟩ := e.reads rfl hdepth rfl
  rw [List.append_nil] at hr'
  rw [run_eq hr, run_eq hr']
  rfl

end DocStore.Query
