import DocStore.Proofs.Query.Grammar

/-!
# Conditions that are not written out

Whether there is a condition to read is a matter of how many tokens are left, not of which. So a boundary can stand in
the place of a value, which is then the empty string (`evaluateCondition_without_value`), and in the place of a field
behind `not`, which then negates what comes of it (`evaluate_not_boundary`).
-/

namespace DocStore.Query

theorem readCondition?_eq_none_iff {ts : List Token} : readCondition? ts = none ↔ ts.length < 3 := by
  match ts with
  | [] => simp [readCondition?]
  | [_] => simp [readCondition?]
  | [_, _] => simp [readCondition?]
  | _ :: _ :: _ :: rest => simp [readCondition?]

theorem exists_three {ts : List Token} (h : ¬ ts.length < 3) :
    ∃ field sign value rest, ts = field :: sign :: value :: rest := by
  match ts with
  | [] => simp at h
  | [_] => simp at h
  | [_, _] => simp at h
  | field :: sign :: value :: rest => exact ⟨field, sign, value, rest, rfl⟩

/-! ## A boundary in place of the value -/

theorem coerceChars_nil : coerceChars [] = .str "" := by
  rfl

theorem byDate?_empty (op : Operator) (stored : Value) : byDate? op stored (.str "") = none := by
  have hread : Time.Timestamp.ofString? "" = none := by rfl
  have hdate : dateFor? op (.str "") = none := by
    rw [dateFor?, hread, ite_self]
  rw [byDate?, hdate]; rfl

theorem same_empty_iff {v : Value} : v.same (.str "") = true ↔ v = .str "" := by
  cases v <;> simp [Value.same]

theorem containsText_empty_iff {v : Value} : containsText v (.str "") = true ↔ ∃ s, v = .str s := by
  have hoccurs : ∀ cs, occursIn [] cs = true := by
    intro cs; cases cs <;> simp [occursIn]
  have hlower : (Text.toLower "").toList = [] := by rfl
  cases v with
  | str s => simp [containsText, hlower, hoccurs]
  | _ => simp [containsText]

theorem compareNumbers?_empty (v : Value) : compareNumbers? v (.str "") = none := by
  cases v <;> simp [compareNumbers?, Value.toFloat?]

/-- What the empty string is compared with. Nothing is in order with it. -/
theorem satisfies_empty_iff {op : Operator} {stored : Value} : satisfies op stored (.str "") = true ↔
    op = .eq ∧ stored = .str "" ∨ op = .ne ∧ stored ≠ .str "" ∨ op = .contains ∧ ∃ s, stored = .str s := by
  rw [satisfies, byDate?_empty, Option.getD_none]
  cases op with
  | eq => simp [byValue, same_empty_iff]
  | ne => simp [byValue, ← same_empty_iff]
  | contains => simp [byValue, containsText_empty_iff]
  | _ => simp [byValue, compareNumbers?_empty]

/-- A condition whose third token is missing does not hold. One with a boundary there holds of an empty string behind
`==`, of any other value behind `!=`, and of any string behind `contains`. -/
theorem evaluateCondition_without_value {tokens : List Token} {start : Nat}
    (h : ∀ t ∈ tokens[start + 2]?, t.isBoundary = true) (record : Record) :
    (evaluateCondition tokens record start).1 = true ↔
      start + 2 < tokens.length ∧ ∃ field sign op stored, tokens[start]? = some field ∧
        tokens[start + 1]? = some sign ∧ Operator.ofText? sign.text = some op ∧
        resolve record (String.ofList field.text) = some stored ∧
        (op = .eq ∧ stored = .str "" ∨ op = .ne ∧ stored ≠ .str "" ∨ op = .contains ∧ ∃ s, stored = .str s) := by
  by_cases hlength : (tokens.drop start).length < 3
  · have hnone := readCondition?_eq_none_iff.mpr hlength
    have hstart : ¬ start + 2 < tokens.length := by
      rw [List.length_drop] at hlength; omega
    simp [evaluateCondition, hnone, hstart]
  · obtain ⟨field, sign, value, rest, hdrop⟩ := exists_three hlength
    have hget : ∀ i, tokens[start + i]? = (field :: sign :: value :: rest)[i]? := by
      intro i; rw [← hdrop, List.getElem?_drop]
    have hstart : start + 2 < tokens.length := by
      rw [List.length_drop] at hlength; omega
    have hvalue : value.isBoundary = true := h value (hget 2)
    have hcondition : readCondition? (tokens.drop start) =
        some (⟨String.ofList field.text, Operator.ofText? sign.text, .str ""⟩, value :: rest) := by
      simp [hdrop, readCondition?, hvalue, joinTexts, coerceChars_nil]
    have hfield : tokens[start]? = some field := hget 0
    have hsign : tokens[start + 1]? = some sign := hget 1
    simp only [evaluateCondition, hcondition, Condition.holds, holdsAt, Option.any_eq_true, satisfies_empty_iff,
      hfield, hsign, Option.some.injEq, hstart, true_and]
    constructor
    · rintro ⟨op, hop, stored, hstored, hcases⟩
      exact ⟨field, sign, op, stored, rfl, rfl, hop, hstored, hcases⟩
    · rintro ⟨_, _, op, stored, rfl, rfl, hop, hstored, hcases⟩
      exact ⟨op, hop, stored, hstored, hcases⟩

/-- `a != )` on a record whose field `a` is a number. -/
def unequalToNothing : List Token :=
  [.ofText ['a'], .ofText ['!', '='], closing]

theorem evaluateCondition_without_value_unequal :
    (∀ t ∈ unequalToNothing[0 + 2]?, t.isBoundary = true) ∧
      (evaluateCondition unequalToNothing [("a", .int 1)] 0).1 = true := by
  have h : ∀ t ∈ unequalToNothing[0 + 2]?, t.isBoundary = true := by decide
  refine ⟨h, (evaluateCondition_without_value h _).mpr ⟨by decide, .ofText ['a'], .ofText ['!', '='], .ne, .int 1, rfl,
    rfl, by decide, by rfl, .inr (.inl ⟨rfl, by simp⟩)⟩⟩

/-! ## A boundary behind `not` -/

/-- What may stand in front of a term: nothing, or an expression and a join. -/
inductive Lead where
  | start
  | joined (e : Expr) (join : Join) (word : List Char)

namespace Lead

def tokens : Lead → List Token
  | start => []
  | joined e join word => e.tokens ++ [⟨.keyword join.keyword, word⟩]

def depth : Lead → Nat
  | start => 0
  | joined e _ _ => e.depth

def steps : Lead → List Step
  | start => []
  | joined e join _ => e.steps ++ [.join join]

def pending (record : Record) : Lead → Pending
  | start => {}
  | joined .empty join _ => ⟨[], [join]⟩
  | joined (.row first others) join _ => ⟨[(Expr.row first others).denote record], [join]⟩

end Lead

def Reading.before (steps : List Step) (r : Reading) : Reading :=
  { r with steps := steps ++ r.steps }

section
variable {limit : Nat} {c : Cursor} {rest : List Token} {r : Reading} (hc : c.exhausted = false)
variable (hv : EndsValue rest) (hr : Reads limit c rest r)
include hc hv hr

theorem Links.reads_before (links : Links) (hd : c.depth + links.depth ≤ limit) :
    Reads limit c (links.tokens ++ rest) (r.before links.steps) := by
  cases links with
  | nil => exact hr
  | cons join word term others =>
    simp only [Links.depth] at hd
    rw [Links.tokens, Links.steps, List.cons_append, List.append_assoc]
    have hothers : Reads limit c (others.tokens ++ rest) (r.before others.steps) := others.reads_before (by omega)
    exact .pass (move_join join word _) (term.reads hc (by omega) (others.endsValue hv) hothers)

theorem Expr.reads_before (e : Expr) (hd : c.depth + e.depth ≤ limit) :
    Reads limit c (e.tokens ++ rest) (r.before e.steps) := by
  cases e with
  | empty => exact hr
  | row first others =>
    simp only [Expr.depth] at hd
    rw [Expr.tokens, Expr.steps, List.append_assoc]
    exact first.reads hc (by omega) (others.endsValue hv) (others.reads_before hc hv hr (by omega))

end

theorem Lead.reads {limit : Nat} {c : Cursor} {rest : List Token} {r : Reading} (lead : Lead)
    (hc : c.exhausted = false) (hd : c.depth + lead.depth ≤ limit) (hr : Reads limit c rest r) :
    Reads limit c (lead.tokens ++ rest) (r.before lead.steps) := by
  cases lead with
  | start => exact hr
  | joined e join word =>
    have hjoin : Reads limit c (⟨.keyword join.keyword, word⟩ :: rest) (r.after (.join join)) :=
      .pass (move_join join word rest) hr
    have hv : EndsValue (⟨.keyword join.keyword, word⟩ :: rest) := by
      intro t ht; cases ht; rfl
    have h := e.reads_before hc hv hjoin hd
    simpa [Lead.tokens, Lead.steps, Reading.before] using h

theorem applySteps_append (record : Record) (p : Pending) (steps others : List Step) :
    applySteps record p (steps ++ others) = applySteps record (applySteps record p steps) others := by
  induction steps generalizing p with
  | nil => rfl
  | cons step steps ih => rw [List.cons_append, applySteps, applySteps, ih]

theorem Expr.apply_steps (record : Record) (first : Term) (others : Links) :
    applySteps record {} (Expr.row first others).steps = ⟨[(Expr.row first others).denote record], []⟩ := by
  rw [Expr.steps, applySteps, first.apply_step, Expr.denote]
  exact others.apply_steps record (first.denote record)

theorem Lead.apply_steps (record : Record) (lead : Lead) :
    applySteps record {} lead.steps = lead.pending record := by
  match lead with
  | .start => rfl
  | .joined .empty join word => rfl
  | .joined (.row first others) join word =>
    rw [Lead.steps, applySteps_append, Expr.apply_steps]; rfl

theorem not_lparen_of_boundary {t : Token} (ht : t.isBoundary = true) : t.kind ≠ .lparen := by
  intro h
  simp [Token.isBoundary, h] at ht

/-- A boundary behind `not` spoils the level if it is one of the last two tokens. Else it is the field of a condition,
whose negation counts and behind which reading goes on. -/
theorem evaluate_not_boundary (lead : Lead) (word : List Char) {k : Token} (hk : k.isBoundary = true) (s : List Token)
    {limit : Nat} (hd : lead.depth ≤ limit) (record : Record) :
    let tokens := lead.tokens ++ ⟨.keyword .not, word⟩ :: k :: s
    (s.length < 2 → evaluate limit tokens record {} 0 = ((false, tokens.length), {})) ∧
    ∀ sign value rest, s = sign :: value :: rest →
      let condition : Condition := ⟨String.ofList k.text, Operator.ofText? sign.text,
        coerceChars (joinTexts ((value :: rest).takeWhile (!·.isBoundary)))⟩
      let level := readLevel limit {} ((value :: rest).dropWhile (!·.isBoundary))
      (evaluate limit tokens record {} 0).1.1 = (!level.spoiled &&
        (applySteps record ((lead.pending record).push (!condition.holds record)) level.steps).value) := by
  intro tokens
  have hparen : ∀ t ∈ (k :: s).head?, t.kind ≠ .lparen := by
    intro t ht; cases ht; exact not_lparen_of_boundary hk
  have hmove := move_not hparen word
  have hdepth : ({} : Cursor).depth + lead.depth ≤ limit := by simpa using hd
  constructor
  · intro hs
    have hnone : readCondition? (k :: s) = none :=
      readCondition?_eq_none_iff.mpr (by rw [List.length_cons]; omega)
    have hspoil : Reads limit {} (⟨.keyword .not, word⟩ :: k :: s) (.spoil {}) := .spoil (by rw [hmove, hnone])
    have h : Reads limit {} (tokens.drop 0) _ := lead.reads rfl hdepth hspoil
    rw [evaluate_eq h]
    simp [Reading.holds, Reading.before]
  · rintro sign value rest rfl condition level
    have hpass : move (⟨.keyword .not, word⟩ :: k :: sign :: value :: rest) =
        .pass (.test true (some condition)) ((value :: rest).dropWhile (!·.isBoundary)) := by
      rw [hmove]; rfl
    have h : Reads limit {} (tokens.drop 0) _ := lead.reads rfl hdepth (.pass hpass (reads_readLevel limit {} _))
    rw [evaluate_eq h]
    simp only [Reading.holds, Reading.before, Reading.after_steps, Reading.after_spoiled, applySteps_append,
      lead.apply_steps, applySteps, Step.apply, Option.any_some, Bool.true_xor]
    rfl

/-- `not ) x y` holds of every record: there is no operator `x`. -/
theorem evaluate_not_boundary_closing :
    closing.isBoundary = true ∧ Lead.start.depth ≤ 64 ∧
      (evaluate 64 [.ofText ['n', 'o', 't'], closing, .ofText ['x'], .ofText ['y']] [] {} 0).1.1 = true := by
  have hk : closing.isBoundary = true := rfl
  have hd : Lead.start.depth ≤ 64 := Nat.zero_le 64
  have h := (evaluate_not_boundary .start ['n', 'o', 't'] hk [.ofText ['x'], .ofText ['y']] hd []).2 _ _ _ rfl
  exact ⟨hk, hd, h.trans (by decide +kernel)⟩

end DocStore.Query
