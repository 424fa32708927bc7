import DocStore.Proofs.Query.Staging

/-!
# The limit on nested groups

A reading either meets the limit and is spoiled as a whole, or it is the reading that any greater limit gives
(`Reads.under`). Which of the two happens depends on how deep the groups of the tokens are nested (`deepest`).
-/

namespace DocStore.Query

mutual
def Step.nesting : Step → Nat
  | .group _ _ steps => stepsNesting steps + 1
  | _ => 0

def stepsNesting : List Step → Nat
  | [] => 0
  | step :: steps => max step.nesting (stepsNesting steps)
end

/-- How many groups are opened inside one another when no limit is met: no level opens more groups than it has
tokens. -/
def deepest (tokens : List Token) : Nat :=
  stepsNesting (readLevel tokens.length {} tokens).steps

theorem nesting_of_pass {ts rest : List Token} {step : Step} (h : move ts = .pass step rest) :
    step.nesting = 0 := by
  rcases join_or_test_of_pass h with ⟨j, rfl⟩ | ⟨negated, condition, rfl⟩ <;> rfl

section
variable {limit limit' : Nat} {c : Cursor} {ts : List Token} {r r' : Reading}

/-! ## The cursor -/

theorem Reads.depth_eq (h : Reads limit c ts r) : r.cursor.depth = c.depth := by
  induction h with
  | stop => rfl
  | spoil => rfl
  | pass _ _ ih => exact ih
  | full => rfl
  | exhaust _ _ _ _ ih => simp [ih]
  | group _ _ _ _ _ ihg ih => simp [ih, ihg]

theorem Reads.cursor_eq (h : Reads limit c ts r) (he : r.cursor.exhausted = false) : r.cursor = c := by
  induction h with
  | stop => rfl
  | spoil => rfl
  | pass _ _ ih => exact ih he
  | full => cases he
  | exhaust _ _ _ heg _ => simp [heg] at he
  | group _ _ _ heg _ ihg ih => simp [ih he, ihg heg]

theorem Reads.cursor_of_exhausted (h : Reads limit c ts r) (he : r.cursor.exhausted = true) :
    r.cursor = ⟨c.depth, true⟩ := by
  rw [← he, ← h.depth_eq]

theorem Reads.length_le (h : Reads limit c ts r) : r.rest.length ≤ ts.length := by
  rw [← reads_iff.mp h]; exact (readLevel limit c ts).length_le

/-- Exhaustion spoils every level on its way out. -/
theorem Reads.spoiled (h : Reads limit c ts r) (hc : c.exhausted = false) (he : r.cursor.exhausted = true) :
    r.spoiled = true ∧ r.rest = [] := by
  induction h with
  | stop => simp [hc] at he
  | spoil => simp [hc] at he
  | pass _ _ ih => exact ih hc he
  | full => exact ⟨rfl, rfl⟩
  | exhaust => exact ⟨rfl, rfl⟩
  | group _ _ _ heg _ _ ih => exact ih heg he

/-! ## Two limits -/

theorem Reads.nesting_le (h : Reads limit c ts r) (he : r.cursor.exhausted = false) (hc : c.depth ≤ limit) :
    c.depth + stepsNesting r.steps ≤ limit := by
  induction h with
  | stop => simpa [stepsNesting] using hc
  | spoil => simpa [stepsNesting] using hc
  | pass hm _ ih => simpa [stepsNesting, nesting_of_pass hm] using ih he hc
  | full => cases he
  | exhaust _ _ _ heg _ => simp [heg] at he
  | group _ hl hg heg _ ihg ih =>
    have hinner := ihg heg hl
    rw [hg.cursor_eq heg, Cursor.closed_opened] at ih
    have houter := ih he hc
    simp only [Cursor.opened_depth] at hinner
    simp only [Reading.after_steps, stepsNesting, Step.nesting]
    omega

/-- A reading that was not exhausted is the reading under any limit that its groups respect. -/
theorem Reads.under (h : Reads limit c ts r) (he : r.cursor.exhausted = false)
    (hn : c.depth + stepsNesting r.steps ≤ limit') : Reads limit' c ts r := by
  induction h with
  | stop hm => exact .stop hm
  | spoil hm => exact .spoil hm
  | pass hm _ ih =>
    refine .pass hm (ih he ?_)
    simpa [stepsNesting, nesting_of_pass hm] using hn
  | full => cases he
  | exhaust _ _ _ heg _ => simp [heg] at he
  | group hm hl hg heg _ ihg ih =>
    simp only [Reading.after_steps, stepsNesting, Step.nesting] at hn
    rw [hg.cursor_eq heg, Cursor.closed_opened] at ih
    have hgroup := ihg heg (by simp only [Cursor.opened_depth]; omega)
    have hrest := ih he (by omega)
    refine .group hm (by omega) hgroup heg ?_
    rwa [hg.cursor_eq heg, Cursor.closed_opened]

theorem Reads.exhausted_iff (h : Reads limit c ts r) (h' : Reads limit' c ts r') (he' : r'.cursor.exhausted = false)
    (hc : c.depth ≤ limit) (hc' : c.depth ≤ limit') :
    r.cursor.exhausted = true ↔ limit < c.depth + stepsNesting r'.steps := by
  constructor
  · intro he
    refine Nat.lt_of_not_le fun hn => ?_
    have := h.unique (h'.under he' hn)
    rw [this, he'] at he; cases he
  · intro hn
    cases he : r.cursor.exhausted with
    | true => rfl
    | false =>
      have hle := h.nesting_le he hc
      have hle' := h'.nesting_le he' hc'
      have hmax : c.depth + stepsNesting r.steps ≤ max limit limit' := by omega
      have hmax' : c.depth + stepsNesting r'.steps ≤ max limit limit' := by omega
      rw [(h.under he hmax).unique (h'.under he' hmax')] at hle; omega

/-- With room for a group at each token no limit is met. -/
theorem Reads.not_exhausted (h : Reads limit c ts r) (hc : c.exhausted = false) (hl : c.depth + ts.length ≤ limit) :
    r.cursor.exhausted = false := by
  induction h with
  | stop => exact hc
  | spoil => exact hc
  | pass hm _ ih =>
    have := length_lt_of_pass hm
    exact ih hc (by omega)
  | full hm hl' =>
    have := length_lt_of_enter hm
    omega
  | exhaust hm _ _ heg ih =>
    have := length_lt_of_enter hm
    rw [ih hc (by simp only [Cursor.opened_depth]; omega)] at heg; cases heg
  | @group _ _ _ _ g _ hm _ hg heg _ _ ih =>
    have := length_lt_of_enter hm
    have := hg.length_le
    have := (skipClosing_suffix g.rest).length_le
    rw [hg.cursor_eq heg, Cursor.closed_opened] at ih
    exact ih hc (by omega)

end

/-! ## Runs under two limits -/

theorem run_exhausted_iff {limit : Nat} {tokens : List Token} {record : Record} :
    (run limit tokens record).2.exhausted = true ↔ limit < deepest tokens := by
  have h := reads_readLevel limit {} tokens
  have hfree := reads_readLevel tokens.length {} tokens
  have he := hfree.not_exhausted rfl (by simp)
  have hiff := h.exhausted_iff hfree he (Nat.zero_le _) (Nat.zero_le _)
  rw [run_eq h]
  simpa [deepest, Level.reading] using hiff

theorem deepest_of_length_le {limit : Nat} {tokens : List Token} {record : Record} (h : tokens.length ≤ limit) :
    (run limit tokens record).2.exhausted = false ∧
      stepsNesting (readLevel limit {} tokens).steps = deepest tokens := by
  have hfree := reads_readLevel tokens.length {} tokens
  have he := hfree.not_exhausted rfl (by simp)
  have hle := hfree.nesting_le he (Nat.zero_le _)
  have hunder := hfree.under he (Nat.le_trans hle h)
  exact ⟨by rw [run_eq hunder]; exact he, congrArg (fun r => stepsNesting r.steps) (reads_iff.mp hunder)⟩

theorem evaluate_of_exhausted {limit start : Nat} {tokens : List Token} {record : Record}
    (he : (evaluate limit tokens record {} start).2.exhausted = true) :
    (evaluate limit tokens record {} start).1 = (false, tokens.length) := by
  have hs := reads_readLevel limit {} (tokens.drop start)
  rw [evaluate_eq hs] at he ⊢
  obtain ⟨hspoiled, hrest⟩ := hs.spoiled rfl he
  have hstart : start < tokens.length := by
    refine Nat.lt_of_not_le fun hle => ?_
    rw [hs.not_exhausted rfl (by simp [List.drop_eq_nil_of_le hle])] at he; cases he
  simp [Reading.holds, hspoiled, hrest, Nat.max_eq_right (Nat.le_of_lt hstart)]

theorem run_of_exhausted {limit : Nat} {tokens : List Token} {record : Record}
    (he : (run limit tokens record).2.exhausted = true) : (run limit tokens record).1 = false := by
  rw [run_eq (reads_readLevel limit {} tokens)] at he ⊢
  simp only at he
  simp [he]

theorem run_eq_of_le {limit limit' : Nat} {tokens : List Token} {record : Record} (hle : limit ≤ limit')
    (he : (run limit tokens record).2.exhausted = false) : run limit' tokens record = run limit tokens record := by
  have h := reads_readLevel limit {} tokens
  rw [run_eq h] at he
  have hn := h.nesting_le he (Nat.zero_le _)
  rw [run_eq h, run_eq (h.under he (Nat.le_trans hn hle))]

/-- Meeting the limit fails closed, whatever stands around the group that is too deep; a run that does not meet it is
the run under every greater limit. It is met exactly if it does not allow for the deepest group. -/
theorem ceiling_fails_closed {d d' : Nat} (hd : d ≤ d') (tokens : List Token) (record : Record) :
    (∀ start, (evaluate d tokens record {} start).2.exhausted = true →
      (evaluate d tokens record {} start).1 = (false, tokens.length)) ∧
    ((run d tokens record).2.exhausted = true → (run d tokens record).1 = false) ∧
    ((run d tokens record).2.exhausted = false → run d' tokens record = run d tokens record) ∧
    ((run d tokens record).2.exhausted = true ↔ d < deepest tokens) ∧
    (∀ free, tokens.length ≤ free → (run free tokens record).2.exhausted = false ∧
      stepsNesting (readLevel free {} tokens).steps = deepest tokens) ∧
    ((run d tokens record).1 = true → (run d' tokens record).1 = true) := by
  refine ⟨fun _ => evaluate_of_exhausted, run_of_exhausted, run_eq_of_le hd, run_exhausted_iff,
    fun _ => deepest_of_length_le, fun h => ?_⟩
  cases he : (run d tokens record).2.exhausted with
  | true => rw [run_of_exhausted he] at h; cases h
  | false => rw [run_eq_of_le hd he]; exact h

/-- `not ( not ( a == 1`, whose groups are nested twice. -/
def twiceNegated : List Token :=
  [.ofText ['n', 'o', 't'], .ofText ['('], .ofText ['n', 'o', 't'], .ofText ['('], .ofText ['a'],
    .ofText ['=', '='], .ofText ['1']]

theorem ceiling_fails_closed_twiceNegated :
    1 ≤ 2 ∧ (run 1 twiceNegated []).2.exhausted = true ∧ (run 1 twiceNegated []).1 = false := by
  have h := ceiling_fails_closed (show 1 ≤ 2 by decide) twiceNegated []
  have he := h.2.2.2.1.mpr (by decide +kernel : 1 < deepest twiceNegated)
  exact ⟨by decide, he, h.2.1 he⟩

end DocStore.Query
