import DocStore.Proofs.Query.Reading

/-!
# Evaluation in two stages

Evaluation goes through the tokens once, and computes while it reads. It comes to what the two stages come to: the
steps of the level that is read from the same tokens, worked off on the record (`evaluate_eq`). Each turn of the
evaluation is the move that its tokens make (`evaluateFrom_move`), and so the two agree along every reading.
-/

namespace DocStore.Query

/-! ## Positions and what is left from there -/

theorem Reads.suffix {limit : Nat} {c : Cursor} {ts : List Token} {r : Reading} (h : Reads limit c ts r) :
    r.rest <:+ ts := by
  induction h with
  | stop => exact List.suffix_refl _
  | spoil | full | exhaust => exact List.nil_suffix
  | pass hm _ ih => exact ih.trans (suffix_of_pass hm)
  | group hm _ _ _ _ ihg ih => exact ih.trans ((skipClosing_suffix _).trans (ihg.trans (suffix_of_enter hm)))

section
variable {tokens rest : List Token} {i : Nat}

theorem drop_of_suffix (h : rest <:+ tokens) : tokens.drop (tokens.length - rest.length) = rest :=
  (List.suffix_iff_eq_drop.mp h).symm

theorem getElem?_of_drop {t : Token} (h : tokens.drop i = t :: rest) : tokens[i]? = some t := by
  have hhead : (tokens.drop i)[0]? = some t := by rw [h]; rfl
  rwa [List.getElem?_drop, Nat.add_zero] at hhead

theorem drop_succ_of_drop {t : Token} (h : tokens.drop i = t :: rest) : tokens.drop (i + 1) = rest := by
  rw [← List.tail_drop, h, List.tail_cons]

theorem length_sub_of_drop {t : Token} (h : tokens.drop i = t :: rest) : tokens.length - rest.length = i + 1 := by
  have hlength := congrArg List.length h
  rw [List.length_drop, List.length_cons] at hlength
  omega

theorem pastClosing_of_suffix (hs : rest <:+ tokens) :
    pastClosing tokens (tokens.length - rest.length) = tokens.length - (skipClosing rest).length := by
  have hdrop := drop_of_suffix hs
  unfold pastClosing
  cases rest with
  | nil => simp [skipClosing]
  | cons t us =>
    rw [getElem?_of_drop hdrop, skipClosing]
    by_cases hk : t.kind = .rparen
    · simp only [Option.any_some, hk, decide_true, if_true]
      rw [length_sub_of_drop hdrop]
    · simp [hk]

variable (record : Record)

theorem evaluateCondition_of_none (h : readCondition? (tokens.drop i) = none) :
    evaluateCondition tokens record i = (false, i) := by
  rw [evaluateCondition, h]

theorem evaluateCondition_of_some {condition : Condition} {after : List Token}
    (h : readCondition? (tokens.drop i) = some (condition, after)) :
    evaluateCondition tokens record i = (condition.holds record, tokens.length - after.length) ∧
      i + 2 ≤ tokens.length - after.length := by
  have htaken := length_lt_of_readCondition? h
  rw [List.length_drop] at htaken
  exact ⟨by rw [evaluateCondition, h], by dsimp only at htaken; omega⟩

end

/-! ## One turn -/

section
variable {limit : Nat} {tokens : List Token} {record : Record} {p : Pending} {c : Cursor} {i : Nat}

/-- What comes of a level at a group: of the inside, unless it is exhausted, and then of what stands behind it. -/
def groupOutcome (limit : Nat) (tokens : List Token) (record : Record) (p : Pending) (c : Cursor) (negated : Bool)
    (start : Nat) : (Bool × Nat) × Cursor :=
  if c.depth < limit then
    let ended := evaluate limit tokens record c.opened start
    if ended.2.exhausted then ((false, tokens.length), ended.2.closed)
    else (evaluateFrom limit tokens record (p.push (negated ^^ ended.1.1)) ended.2.closed
      (pastClosing tokens ended.1.2)).outcome
  else ((false, tokens.length), { c with exhausted := true })

theorem groupOutcome_eq {start : Nat} (hstart : start ≤ tokens.length) (negated : Bool) :
    groupOutcome limit tokens record p c negated start =
      let group := evaluateGroup limit tokens c hstart fun c => evaluateFrom limit tokens record {} c start
      if group.cursor.exhausted then ((false, tokens.length), group.cursor)
      else (evaluateFrom limit tokens record (p.push (negated ^^ group.value)) group.cursor group.position).outcome := by
  by_cases hl : c.depth < limit
  · have hgroup : evaluateGroup limit tokens c hstart (fun c => evaluateFrom limit tokens record {} c start) = _ :=
      if_pos hl
    rw [groupOutcome, if_pos hl, hgroup]; rfl
  · have hgroup : evaluateGroup limit tokens c hstart (fun c => evaluateFrom limit tokens record {} c start) = _ :=
      if_neg hl
    rw [groupOutcome, if_neg hl, hgroup]; rfl

theorem evaluateFrom_lparen (hi : i < tokens.length) (hk : tokens[i].kind = .lparen) :
    (evaluateFrom limit tokens record p c i).outcome = groupOutcome limit tokens record p c false (i + 1) := by
  rw [evaluateFrom, dif_pos hi, groupOutcome_eq hi]
  simp only [hk, apply_ite Ended.outcome, Bool.false_xor]
  rfl

theorem evaluateFrom_notGroup (hi : i + 1 < tokens.length) (hk : tokens[i].kind = .keyword .not)
    (hk' : tokens[i + 1].kind = .lparen) :
    (evaluateFrom limit tokens record p c i).outcome = groupOutcome limit tokens record p c true (i + 2) := by
  rw [evaluateFrom, dif_pos (Nat.lt_of_succ_lt hi), groupOutcome_eq hi]
  simp only [hk, dif_pos hi, if_pos hk', apply_ite Ended.outcome, Bool.true_xor]
  rfl

theorem evaluateFrom_join (hi : i < tokens.length) (j : Join) (hk : tokens[i].kind = .keyword j.keyword) :
    (evaluateFrom limit tokens record p c i).outcome =
      (evaluateFrom limit tokens record (p.enqueue j) c (i + 1)).outcome := by
  rw [evaluateFrom, dif_pos hi]
  cases j <;> simp only [Join.keyword] at hk <;> simp only [hk] <;> rfl

theorem evaluateFrom_plain (hi : i < tokens.length) (hb : tokens[i].isBoundary = false)
    (hp : tokens[i].kind ≠ .lparen) : (evaluateFrom limit tokens record p c i).outcome =
      (evaluateFrom limit tokens record (p.push (evaluateCondition tokens record i).1) c
        (max (evaluateCondition tokens record i).2 (i + 1))).outcome := by
  rw [evaluateFrom, dif_pos hi]
  unfold Token.isBoundary at hb
  cases hk : tokens[i].kind with
  | lparen => exact absurd hk hp
  | rparen => simp [hk] at hb
  | keyword k => simp [hk] at hb
  | ident | quoted | operator => rfl

theorem evaluateFrom_not (hi : i < tokens.length) (hk : tokens[i].kind = .keyword .not)
    (hp : ∀ t' ∈ tokens[i + 1]?, t'.kind ≠ .lparen) : (evaluateFrom limit tokens record p c i).outcome =
      if i + 1 < tokens.length then
        if (evaluateCondition tokens record (i + 1)).2 = i + 1 then ((false, tokens.length), c)
        else (evaluateFrom limit tokens record (p.push (!(evaluateCondition tokens record (i + 1)).1)) c
          (evaluateCondition tokens record (i + 1)).2).outcome
      else ((false, i + 1), c) := by
  rw [evaluateFrom, dif_pos hi]
  simp only [hk]
  by_cases hi' : i + 1 < tokens.length
  · have hparen : tokens[i + 1].kind ≠ .lparen := hp _ (List.getElem?_eq_getElem hi')
    rw [dif_pos hi', if_neg hparen, if_pos hi']
    split <;> rfl
  · rw [dif_neg hi', if_neg hi']; rfl

/-- A turn of an evaluation is the move that its tokens make, with positions for tokens. -/
theorem evaluateFrom_move : (evaluateFrom limit tokens record p c i).outcome = match move (tokens.drop i) with
    | .stop => ((p.value, i), c)
    | .spoil => ((false, tokens.length), c)
    | .pass step rest =>
      (evaluateFrom limit tokens record (step.apply record p) c (tokens.length - rest.length)).outcome
    | .enter negated inside => groupOutcome limit tokens record p c negated (tokens.length - inside.length) := by
  have hfront := front (tokens.drop i)
  generalize hmove : move (tokens.drop i) = m at hfront
  generalize hdrop : tokens.drop i = ts at hfront
  cases hfront with
  | nil =>
    have hi : ¬ i < tokens.length := Nat.not_lt.mpr (List.drop_eq_nil_iff.mp hdrop)
    rw [evaluateFrom, dif_neg hi]; rfl
  | rparen hk =>
    obtain ⟨hi, rfl⟩ := List.getElem?_eq_some_iff.mp (getElem?_of_drop hdrop)
    rw [evaluateFrom, dif_pos hi]
    simp only [hk]; rfl
  | lparen hk =>
    obtain ⟨hi, rfl⟩ := List.getElem?_eq_some_iff.mp (getElem?_of_drop hdrop)
    rw [evaluateFrom_lparen hi hk, ← length_sub_of_drop hdrop]
  | join j word us =>
    obtain ⟨hi, ht⟩ := List.getElem?_eq_some_iff.mp (getElem?_of_drop hdrop)
    rw [evaluateFrom_join hi j (congrArg Token.kind ht), ← length_sub_of_drop hdrop]; rfl
  | lacking hb hp hr =>
    obtain ⟨hi, rfl⟩ := List.getElem?_eq_some_iff.mp (getElem?_of_drop hdrop)
    rw [← hdrop] at hr
    rw [evaluateFrom_plain hi hb hp, evaluateCondition_of_none record hr, Nat.max_eq_right (Nat.le_add_right i 1),
      ← length_sub_of_drop hdrop]
    rfl
  | test hb hp hr =>
    obtain ⟨hi, rfl⟩ := List.getElem?_eq_some_iff.mp (getElem?_of_drop hdrop)
    rw [← hdrop] at hr
    obtain ⟨hcondition, hle⟩ := evaluateCondition_of_some record hr
    rw [evaluateFrom_plain hi hb hp, hcondition, Nat.max_eq_left (Nat.le_of_succ_le hle)]
    simp [Step.apply]
  | @notGroup word t us hk =>
    have hrest := drop_succ_of_drop hdrop
    obtain ⟨_, hnot⟩ := List.getElem?_eq_some_iff.mp (getElem?_of_drop hdrop)
    obtain ⟨hi, rfl⟩ := List.getElem?_eq_some_iff.mp (getElem?_of_drop hrest)
    rw [evaluateFrom_notGroup hi (congrArg Token.kind hnot) hk, ← length_sub_of_drop hrest]
  | @notLacking word us hp hr =>
    have hrest := drop_succ_of_drop hdrop
    have hlength := length_sub_of_drop hdrop
    obtain ⟨hi, hnot⟩ := List.getElem?_eq_some_iff.mp (getElem?_of_drop hdrop)
    rw [← hrest] at hp hr
    rw [evaluateFrom_not hi (congrArg Token.kind hnot) (by rwa [← List.head?_drop]),
      evaluateCondition_of_none record hr, if_pos rfl]
    split
    · rfl
    · rw [show tokens.length = i + 1 by omega]
  | @notTest word us condition after hp hr =>
    have hrest := drop_succ_of_drop hdrop
    obtain ⟨hi, hnot⟩ := List.getElem?_eq_some_iff.mp (getElem?_of_drop hdrop)
    rw [← hrest] at hp hr
    obtain ⟨hcondition, hle⟩ := evaluateCondition_of_some record hr
    rw [evaluateFrom_not hi (congrArg Token.kind hnot) (by rwa [← List.head?_drop]), hcondition,
      if_pos (by omega), if_neg (by dsimp only; omega)]
    simp [Step.apply]

end

/-! ## Whole levels -/

/-- Evaluation comes to what reading and then working off come to, from any results on. -/
theorem outcome_eq {limit : Nat} {tokens ts : List Token} {c : Cursor} {r : Reading} (h : Reads limit c ts r)
    (hs : ts <:+ tokens) (record : Record) (p : Pending) :
    (evaluateFrom limit tokens record p c (tokens.length - ts.length)).outcome =
      ((!r.spoiled && (applySteps record p r.steps).value, tokens.length - r.rest.length), r.cursor) := by
  induction h generalizing p with
  | stop hm =>
    rw [evaluateFrom_move, drop_of_suffix hs, hm]; rfl
  | spoil hm => rw [evaluateFrom_move, drop_of_suffix hs, hm]; rfl
  | @pass c ts step rest r hm _ ih =>
    rw [evaluateFrom_move, drop_of_suffix hs, hm]
    exact ih ((suffix_of_pass hm).trans hs) (step.apply record p)
  | full hm hl =>
    rw [evaluateFrom_move, drop_of_suffix hs, hm]
    exact if_neg (Nat.not_lt.mpr hl)
  | @exhaust c ts negated inside g hm hl _ he ih =>
    have hinside := ih ((suffix_of_enter hm).trans hs) {}
    rw [evaluateFrom_move, drop_of_suffix hs, hm]
    simp only [groupOutcome, if_pos hl, evaluate, hinside, he, if_true]
    rfl
  | @group c ts negated inside g r hm hl hg he _ ihg ih =>
    have hsuffix := (suffix_of_enter hm).trans hs
    have hinside := ihg hsuffix {}
    have hposition := pastClosing_of_suffix (hg.suffix.trans hsuffix)
    rw [evaluateFrom_move, drop_of_suffix hs, hm]
    dsimp only
    rw [groupOutcome, if_pos hl, evaluate, hinside]
    dsimp only
    rw [he, if_neg Bool.false_ne_true, hposition]
    exact ih ((skipClosing_suffix _).trans (hg.suffix.trans hsuffix)) _

theorem evaluate_eq {limit : Nat} {c : Cursor} {tokens : List Token} {start : Nat} {r : Reading}
    (h : Reads limit c (tokens.drop start) r) (record : Record) :
    evaluate limit tokens record c start =
      ((r.holds record, max start tokens.length - r.rest.length), r.cursor) := by
  by_cases hstart : start ≤ tokens.length
  · have hposition : tokens.length - (tokens.drop start).length = start := by rw [List.length_drop]; omega
    have houtcome := outcome_eq h (List.drop_suffix start tokens) record {}
    rw [hposition] at houtcome
    rw [evaluate, houtcome, Nat.max_eq_right hstart]; rfl
  · have hpast : ¬ start < tokens.length := by omega
    rw [List.drop_eq_nil_of_le (by omega)] at h
    rw [h.unique (.stop rfl), evaluate, evaluateFrom, dif_neg hpast, Nat.max_eq_left (by omega)]
    rfl

theorem run_eq {limit : Nat} {ts : List Token} {r : Reading} (h : Reads limit {} ts r) (record : Record) :
    run limit ts record = (r.holds record && !r.cursor.exhausted, r.cursor) := by
  have hevaluate : evaluate limit ts record {} 0 = _ := evaluate_eq h record
  rw [run, hevaluate]

end DocStore.Query
