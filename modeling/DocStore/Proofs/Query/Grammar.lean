import DocStore.Proofs.Query.Ceiling

/-!
# The language of queries

Expressions as trees, the tokens that they are written with, and what they mean. Reading the tokens of a tree gives
back its outline (`Expr.reads`), and working off the outline gives its meaning (`Expr.value_steps`), so a query
means what its tree means wherever the limit allows for its groups.
-/

namespace DocStore.Query

/-! ## Trees -/

/-- A condition as it is written: a field, an operator in any spelling, and the tokens of a value. -/
structure Comparison where
  field : Token
  sign : Token
  op : Operator
  value : List Token
  field_plain : field.isBoundary = false ∧ field.kind ≠ .lparen
  sign_reads : Operator.ofText? sign.text = some op
  value_ne_nil : value ≠ []
  value_plain : ∀ t ∈ value, t.isBoundary = false

-- The words for `and`, `or` and `not` are kept as they were spelled.
mutual
inductive Expr where
  | empty
  | row (first : Term) (others : Links)

inductive Links where
  | nil
  | cons (join : Join) (word : List Char) (term : Term) (others : Links)

inductive Term where
  | test (c : Comparison)
  | notTest (word : List Char) (c : Comparison)
  | group (e : Expr)
  | notGroup (word : List Char) (e : Expr)
end

/-! ## Tokens -/

def Comparison.tokens (c : Comparison) : List Token :=
  c.field :: c.sign :: c.value

def opening : Token := ⟨.lparen, ['(']⟩

def closing : Token := ⟨.rparen, [')']⟩

mutual
def Expr.tokens : Expr → List Token
  | .empty => []
  | .row first others => first.tokens ++ others.tokens

def Links.tokens : Links → List Token
  | .nil => []
  | .cons join word term others => ⟨.keyword join.keyword, word⟩ :: (term.tokens ++ others.tokens)

def Term.tokens : Term → List Token
  | .test c => c.tokens
  | .notTest word c => ⟨.keyword .not, word⟩ :: c.tokens
  | .group e => opening :: (e.tokens ++ [closing])
  | .notGroup word e => ⟨.keyword .not, word⟩ :: opening :: (e.tokens ++ [closing])
end

mutual
def Expr.depth : Expr → Nat
  | .empty => 0
  | .row first others => max first.depth others.depth

def Links.depth : Links → Nat
  | .nil => 0
  | .cons _ _ term others => max term.depth others.depth

def Term.depth : Term → Nat
  | .test _ => 0
  | .notTest _ _ => 0
  | .group e => e.depth + 1
  | .notGroup _ e => e.depth + 1
end

/-! ## Meaning -/

def Comparison.denote (record : Record) (c : Comparison) : Bool :=
  holdsAt record (String.ofList c.field.text) c.op
    (coerce (" ".intercalate (c.value.map fun t => String.ofList t.text)))

mutual
def Expr.denote (record : Record) : Expr → Bool
  | .empty => true
  | .row first others => others.denote record (first.denote record)

/-- The meaning of what stands before the links, joined with theirs from left to right. -/
def Links.denote (record : Record) (before : Bool) : Links → Bool
  | .nil => before
  | .cons .and _ term others => others.denote record (before && term.denote record)
  | .cons .or _ term others => others.denote record (before || term.denote record)

def Term.denote (record : Record) : Term → Bool
  | .test c => c.denote record
  | .notTest _ c => !c.denote record
  | .group e => e.denote record
  | .notGroup _ e => !e.denote record
end

/-! ## Outlines -/

def Comparison.condition (c : Comparison) : Condition :=
  ⟨String.ofList c.field.text, some c.op, coerceChars (joinTexts c.value)⟩

mutual
def Expr.steps : Expr → List Step
  | .empty => []
  | .row first others => first.step :: others.steps

def Links.steps : Links → List Step
  | .nil => []
  | .cons join _ term others => .join join :: term.step :: others.steps

def Term.step : Term → Step
  | .test c => .test false (some c.condition)
  | .notTest _ c => .test true (some c.condition)
  | .group e => .group false false e.steps
  | .notGroup _ e => .group true false e.steps
end

mutual
theorem Expr.nesting_steps (e : Expr) : stepsNesting e.steps = e.depth := by
  match e with
  | .empty => rfl
  | .row first others => rw [Expr.steps, stepsNesting, first.nesting_step, others.nesting_steps, Expr.depth]

theorem Links.nesting_steps (links : Links) : stepsNesting links.steps = links.depth := by
  match links with
  | .nil => rfl
  | .cons join word term others =>
    rw [Links.steps, stepsNesting, stepsNesting, term.nesting_step, others.nesting_steps, Links.depth]
    exact Nat.zero_max _

theorem Term.nesting_step (term : Term) : term.step.nesting = term.depth := by
  match term with
  | .test _ => rfl
  | .notTest _ _ => rfl
  | .group e => rw [Term.step, Step.nesting, e.nesting_steps, Term.depth]
  | .notGroup _ e => rw [Term.step, Step.nesting, e.nesting_steps, Term.depth]
end

/-! ## Reading gives the outline -/

def EndsValue (ts : List Token) : Prop :=
  ∀ t ∈ ts.head?, t.isBoundary = true

theorem endsValue_of_stop {ts : List Token} (h : move ts = .stop) : EndsValue ts := by
  intro t ht
  cases ts with
  | nil => cases ht
  | cons u us =>
    cases ht
    cases hb : t.isBoundary with
    | true => rfl
    | false =>
      by_cases hp : t.kind = .lparen
      · simp [move, hp] at h
      · rw [move_plain hb hp] at h
        split at h <;> cases h

theorem Links.endsValue (links : Links) {rest : List Token} (h : EndsValue rest) :
    EndsValue (links.tokens ++ rest) := by
  cases links with
  | nil => exact h
  | cons => intro t ht; cases ht; rfl

theorem readCondition?_tokens (c : Comparison) {rest : List Token} (h : EndsValue rest) :
    readCondition? (c.tokens ++ rest) = some (c.condition, rest) := by
  obtain ⟨field, sign, op, value, hf, hs, hne, hv⟩ := c
  obtain ⟨v, vs, rfl⟩ := List.exists_cons_of_ne_nil hne
  have hstop : rest.takeWhile (fun t => !t.isBoundary) = [] ∧ rest.dropWhile (fun t => !t.isBoundary) = rest := by
    cases rest with
    | nil => exact ⟨rfl, rfl⟩
    | cons t us => simp [h t rfl]
  have hvalue : ∀ t ∈ v :: vs, (!t.isBoundary) = true := fun t ht => by simp [hv t ht]
  simp only [Comparison.tokens, List.cons_append, readCondition?, hs]
  rw [← List.cons_append, List.takeWhile_append_of_pos hvalue, List.dropWhile_append_of_pos hvalue, hstop.1, hstop.2,
    List.append_nil]
  rfl

theorem move_test (c : Comparison) {rest : List Token} (h : EndsValue rest) :
    move (c.tokens ++ rest) = .pass (.test false (some c.condition)) rest := by
  have hr := readCondition?_tokens c h
  unfold Comparison.tokens at hr ⊢
  rw [List.cons_append, move_plain c.field_plain.1 c.field_plain.2, ← List.cons_append, hr]

theorem move_notTest (word : List Char) (c : Comparison) {rest : List Token} (h : EndsValue rest) :
    move (⟨.keyword .not, word⟩ :: (c.tokens ++ rest)) = .pass (.test true (some c.condition)) rest := by
  have hr := readCondition?_tokens c h
  unfold Comparison.tokens at hr ⊢
  simp only [List.cons_append] at hr ⊢
  simp [move, c.field_plain.2, hr]

mutual
theorem Expr.reads {limit : Nat} (e : Expr) {c : Cursor} {rest : List Token} (hc : c.exhausted = false)
    (hd : c.depth + e.depth ≤ limit) (hr : move rest = .stop) :
    Reads limit c (e.tokens ++ rest) ⟨e.steps, false, c, rest⟩ := by
  match e with
  | .empty => exact .stop hr
  | .row first others =>
    simp only [Expr.depth] at hd
    rw [Expr.tokens, Expr.steps, List.append_assoc]
    have hothers : Reads limit c (others.tokens ++ rest) ⟨others.steps, false, c, rest⟩ :=
      others.reads hc (by omega) hr
    exact first.reads hc (by omega) (others.endsValue (endsValue_of_stop hr)) hothers

theorem Links.reads {limit : Nat} (links : Links) {c : Cursor} {rest : List Token} (hc : c.exhausted = false)
    (hd : c.depth + links.depth ≤ limit) (hr : move rest = .stop) :
    Reads limit c (links.tokens ++ rest) ⟨links.steps, false, c, rest⟩ := by
  match links with
  | .nil => exact .stop hr
  | .cons join word term others =>
    simp only [Links.depth] at hd
    rw [Links.tokens, Links.steps, List.cons_append, List.append_assoc]
    have hothers : Reads limit c (others.tokens ++ rest) ⟨others.steps, false, c, rest⟩ :=
      others.reads hc (by omega) hr
    exact .pass (move_join join word _)
      (term.reads hc (by omega) (others.endsValue (endsValue_of_stop hr)) hothers)

theorem Term.reads {limit : Nat} (term : Term) {c : Cursor} {rest : List Token} {r : Reading}
    (hc : c.exhausted = false) (hd : c.depth + term.depth ≤ limit) (hv : EndsValue rest) (hr : Reads limit c rest r) :
    Reads limit c (term.tokens ++ rest) (r.after term.step) := by
  match term with
  | .test cond => exact .pass (move_test cond hv) hr
  | .notTest word cond => exact .pass (move_notTest word cond hv) hr
  | .group e =>
    simp only [Term.depth] at hd
    have hm : move ((Term.group e).tokens ++ rest) = .enter false (e.tokens ++ closing :: rest) := by
      simp [Term.tokens, opening, move]
    have he : Reads limit c.opened (e.tokens ++ closing :: rest) ⟨e.steps, false, c.opened, closing :: rest⟩ :=
      e.reads hc (by simp only [Cursor.opened_depth]; omega) rfl
    exact .group hm (by omega) he hc hr
  | .notGroup word e =>
    simp only [Term.depth] at hd
    have hm : move ((Term.notGroup word e).tokens ++ rest) = .enter true (e.tokens ++ closing :: rest) := by
      simp [Term.tokens, opening, move]
    have he : Reads limit c.opened (e.tokens ++ closing :: rest) ⟨e.steps, false, c.opened, closing :: rest⟩ :=
      e.reads hc (by simp only [Cursor.opened_depth]; omega) rfl
    exact .group hm (by omega) he hc hr
end

/-! ## Working off the outline gives the meaning -/

theorem joinTexts_eq (ts : List Token) :
    joinTexts ts = (" ".intercalate (ts.map fun t => String.ofList t.text)).toList := by
  induction ts with
  | nil => rfl
  | cons t ts ih =>
    cases ts with
    | nil => simp [joinTexts]
    | cons u us => simp [joinTexts, String.intercalate_cons_cons, ih]

theorem Comparison.holds_condition (record : Record) (c : Comparison) :
    c.condition.holds record = c.denote record := by
  simp [Condition.holds, Comparison.condition, Comparison.denote, joinTexts_eq, coerce]

mutual
theorem Expr.value_steps (record : Record) (e : Expr) :
    (applySteps record {} e.steps).value = e.denote record := by
  match e with
  | .empty => rfl
  | .row first others =>
    rw [Expr.steps, applySteps, first.apply_step, Expr.denote]
    exact congrArg Pending.value (others.apply_steps record (first.denote record))

theorem Links.apply_steps (record : Record) (before : Bool) (links : Links) :
    applySteps record ⟨[before], []⟩ links.steps = ⟨[links.denote record before], []⟩ := by
  match links with
  | .nil => rfl
  | .cons .and word term others =>
    rw [Links.steps, applySteps, applySteps, term.apply_step, Links.denote]
    exact others.apply_steps record (before && term.denote record)
  | .cons .or word term others =>
    rw [Links.steps, applySteps, applySteps, term.apply_step, Links.denote]
    exact others.apply_steps record (before || term.denote record)

theorem Term.apply_step (record : Record) (p : Pending) (term : Term) :
    term.step.apply record p = p.push (term.denote record) := by
  match term with
  | .test c => simp [Term.step, Step.apply, Term.denote, c.holds_condition]
  | .notTest word c => simp [Term.step, Step.apply, Term.denote, c.holds_condition]
  | .group e => simp [Term.step, Step.apply, Term.denote, e.value_steps]
  | .notGroup word e => simp [Term.step, Step.apply, Term.denote, e.value_steps]
end

/-- A query is worth what its tree denotes, and reading ends with its last token; a limit below the nesting of its
groups makes it false. -/
theorem query_means_its_tree (e : Expr) (limit : Nat) (record : Record) :
    run limit e.tokens record =
      (decide (e.depth ≤ limit) && e.denote record, ⟨0, decide (limit < e.depth)⟩) ∧
    evaluate limit e.tokens record {} 0 =
      ((decide (e.depth ≤ limit) && e.denote record, e.tokens.length), ⟨0, decide (limit < e.depth)⟩) := by
  have hend : move [] = .stop := rfl
  have hfree : Reads e.depth {} e.tokens ⟨e.steps, false, {}, []⟩ := by
    simpa using e.reads rfl (Nat.le_of_eq (Nat.zero_add e.depth)) hend
  by_cases hd : e.depth ≤ limit
  · have h : Reads limit {} e.tokens ⟨e.steps, false, {}, []⟩ :=
      hfree.under rfl (by simpa [e.nesting_steps] using hd)
    rw [run_eq h, evaluate_eq h]
    simp [Reading.holds, e.value_steps, hd, Nat.not_lt.mpr hd]
  · have h := reads_readLevel limit {} e.tokens
    have he := (h.exhausted_iff hfree rfl (Nat.zero_le _) (Nat.zero_le _)).mpr
      (by simpa [e.nesting_steps] using hd)
    obtain ⟨hspoiled, hrest⟩ := h.spoiled rfl he
    rw [run_eq h, evaluate_eq h, h.cursor_of_exhausted he]
    simp [Reading.holds, hspoiled, hrest, hd, Nat.not_le.mp hd]

end DocStore.Query
