import DocStore.Proofs.Query.Ceiling
import DocStore.Proofs.Query.Closing

/-!
# Positions

A level is read in turns, each of which starts at a position among the tokens. A turn stops the level, leaves it at
once, or goes on at a greater position, and what comes of the level is then what comes of it from there
(`evaluate_turn`). `Visited` are the turns that an evaluation consists of, those of its groups among them: nowhere are
more groups open than allowed, and every evaluation gives the cursor back as deep as it was (`evaluate_progresses`).
-/

namespace DocStore.Query

/-! ## What is left is the end of the tokens -/

theorem Reads.rest_eq_nil_or_rparen {limit : Nat} {c : Cursor} {ts : List Token} {r : Reading}
    (h : Reads limit c ts r) : r.rest = [] ∨ ∃ t us, r.rest = t :: us ∧ t.kind = .rparen := by
  induction h with
  | stop hm =>
    cases front_of_move hm with
    | nil => exact .inl rfl
    | rparen hk => exact .inr ⟨_, _, rfl, hk⟩
  | spoil | full | exhaust => exact .inl rfl
  | pass _ _ ih => exact ih
  | group _ _ _ _ _ _ ih => exact ih

/-! ## Turns -/

/-- What a turn comes to: the level ends here, it is left for another position, or it goes on there. -/
inductive Turn where
  | stop
  | leave (position : Nat) (c : Cursor)
  | next (position : Nat) (c : Cursor)

def groupAt? (tokens : List Token) (i : Nat) : Option Nat :=
  match tokens[i]?.map Token.kind, tokens[i + 1]?.map Token.kind with
  | some .lparen, _ => some (i + 1)
  | some (.keyword .not), some .lparen => some (i + 2)
  | _, _ => none

section
variable (limit : Nat) (tokens : List Token) (record : Record) (c : Cursor)

def groupTurn (start : Nat) : Turn :=
  if c.depth < limit then
    let ended := evaluate limit tokens record c.opened start
    if ended.2.exhausted then .leave tokens.length ended.2.closed
    else .next (pastClosing tokens ended.1.2) ended.2.closed
  else .leave tokens.length { c with exhausted := true }

def turn (i : Nat) : Turn :=
  match groupAt? tokens i with
  | some start => groupTurn limit tokens record c start
  | none =>
    match tokens[i]?.map Token.kind with
    | none | some .rparen => .stop
    | some (.keyword .not) =>
      if i + 1 < tokens.length then
        let next := (evaluateCondition tokens record (i + 1)).2
        if next = i + 1 then .leave tokens.length c else .next next c
      else .leave (i + 1) c
    | some (.keyword _) => .next (i + 1) c
    | some _ => .next (max (evaluateCondition tokens record i).2 (i + 1)) c

def ending (i : Nat) : Nat × Cursor :=
  ((evaluate limit tokens record c i).1.2, (evaluate limit tokens record c i).2)

end

section
variable {limit : Nat} {tokens : List Token} {record : Record} {c : Cursor} {i : Nat}

theorem ending_eq {r : Reading} (hi : i ≤ tokens.length) (h : Reads limit c (tokens.drop i) r) :
    ending limit tokens record c i = (tokens.length - r.rest.length, r.cursor) := by
  rw [ending, evaluate_eq h, Nat.max_eq_right hi]

theorem ending_of_suffix (record : Record) {ts : List Token} {r : Reading} (hs : ts <:+ tokens)
    (h : Reads limit c ts r) :
    ending limit tokens record c (tokens.length - ts.length) = (tokens.length - r.rest.length, r.cursor) := by
  rw [← drop_of_suffix hs] at h
  exact ending_eq (Nat.sub_le _ _) h

theorem turn_plain {t : Token} (ht : tokens[i]? = some t) (hb : t.isBoundary = false) (hp : t.kind ≠ .lparen) :
    turn limit tokens record c i = .next (max (evaluateCondition tokens record i).2 (i + 1)) c := by
  unfold Token.isBoundary at hb
  cases hk : t.kind with
  | lparen => exact absurd hk hp
  | rparen => simp [hk] at hb
  | keyword k => simp [hk] at hb
  | ident | quoted | operator => simp [turn, groupAt?, ht, hk]

theorem turn_not {t : Token} (ht : tokens[i]? = some t) (hk : t.kind = .keyword .not)
    (hp : ∀ t' ∈ tokens[i + 1]?, t'.kind ≠ .lparen) : turn limit tokens record c i =
      if i + 1 < tokens.length then
        if (evaluateCondition tokens record (i + 1)).2 = i + 1 then .leave tokens.length c
        else .next (evaluateCondition tokens record (i + 1)).2 c
      else .leave (i + 1) c := by
  have hgroup : groupAt? tokens i = none := by
    unfold groupAt?
    cases hnext : tokens[i + 1]? with
    | none => simp [ht, hk]
    | some t' =>
      have hparen := hp t' (by rw [hnext]; rfl)
      simp [ht, hk, hparen]
  simp [turn, hgroup, ht, hk]

/-- A turn is the move that its tokens make, with positions for tokens. -/
theorem turn_eq : turn limit tokens record c i = match move (tokens.drop i) with
    | .stop => .stop
    | .spoil => .leave tokens.length c
    | .pass _ rest => .next (tokens.length - rest.length) c
    | .enter _ inside => groupTurn limit tokens record c (tokens.length - inside.length) := by
  have hfront := front (tokens.drop i)
  generalize hmove : move (tokens.drop i) = m at hfront
  generalize hdrop : tokens.drop i = ts at hfront
  cases hfront with
  | nil =>
    have hnone : tokens[i]? = none := List.getElem?_eq_none (List.drop_eq_nil_iff.mp hdrop)
    simp [turn, groupAt?, hnone]
  | rparen hk => simp [turn, groupAt?, getElem?_of_drop hdrop, hk]
  | lparen hk => simp [turn, groupAt?, getElem?_of_drop hdrop, hk, length_sub_of_drop hdrop]
  | join j =>
    have ht := getElem?_of_drop hdrop
    cases j <;> simp [turn, groupAt?, ht, Join.keyword, length_sub_of_drop hdrop]
  | lacking hb hp hr =>
    rw [← hdrop] at hr
    rw [turn_plain (getElem?_of_drop hdrop) hb hp, evaluateCondition_of_none record hr]
    simp [length_sub_of_drop hdrop]
  | test hb hp hr =>
    rw [← hdrop] at hr
    obtain ⟨hcondition, hle⟩ := evaluateCondition_of_some record hr
    rw [turn_plain (getElem?_of_drop hdrop) hb hp, hcondition, Nat.max_eq_left (Nat.le_of_succ_le hle)]
  | notGroup hk =>
    have hnext := getElem?_of_drop (drop_succ_of_drop hdrop)
    simp [turn, groupAt?, getElem?_of_drop hdrop, hnext, hk, length_sub_of_drop (drop_succ_of_drop hdrop)]
  | @notLacking word us hp hr =>
    have hrest := drop_succ_of_drop hdrop
    have hlength := length_sub_of_drop hdrop
    rw [← hrest] at hp hr
    rw [turn_not (getElem?_of_drop hdrop) rfl (by rwa [← List.head?_drop]),
      evaluateCondition_of_none record hr, if_pos rfl]
    split
    · rfl
    · rw [show tokens.length = i + 1 by omega]
  | @notTest word us condition after hp hr =>
    have hrest := drop_succ_of_drop hdrop
    rw [← hrest] at hp hr
    obtain ⟨hcondition, hle⟩ := evaluateCondition_of_some record hr
    rw [turn_not (getElem?_of_drop hdrop) rfl (by rwa [← List.head?_drop]), hcondition,
      if_pos (by omega), if_neg (by dsimp only; omega)]

/-- A group that is entered is read from its start, and then the level goes on behind it, unless it is exhausted. -/
theorem groupTurn_eq {inside : List Token} (hs : inside <:+ tokens) {g : Reading}
    (hg : Reads limit c.opened inside g) :
    groupTurn limit tokens record c (tokens.length - inside.length) =
      if c.depth < limit then
        if g.cursor.exhausted then .leave tokens.length g.cursor.closed
        else .next (tokens.length - (skipClosing g.rest).length) g.cursor.closed
      else .leave tokens.length { c with exhausted := true } := by
  have hend := ending_of_suffix record hs hg
  have hposition : (evaluate limit tokens record c.opened (tokens.length - inside.length)).1.2 =
      tokens.length - g.rest.length := congrArg Prod.fst hend
  have hcursor : (evaluate limit tokens record c.opened (tokens.length - inside.length)).2 = g.cursor :=
    congrArg Prod.snd hend
  rw [groupTurn]
  dsimp only
  rw [hposition, hcursor, pastClosing_of_suffix (hg.suffix.trans hs)]

def Turn.Leads (limit : Nat) (tokens : List Token) (record : Record) (c : Cursor) (i : Nat) : Turn → Prop
  | .stop => ending limit tokens record c i = (i, c)
  | .leave j c' => ending limit tokens record c i = (j, c') ∧ j = tokens.length
  | .next j c' => ending limit tokens record c i = ending limit tokens record c' j ∧
      i < j ∧ j ≤ tokens.length ∧ c'.depth = c.depth

theorem leads_next (record : Record) {ts rest : List Token} {c' : Cursor} {r r' : Reading} (hs : ts <:+ tokens)
    (hr : rest <:+ ts) (hlt : rest.length < ts.length) (h : Reads limit c ts r) (h' : Reads limit c' rest r')
    (hrest : r.rest = r'.rest) (hcursor : r.cursor = r'.cursor) (hdepth : c'.depth = c.depth) :
    (Turn.next (tokens.length - rest.length) c').Leads limit tokens record c (tokens.length - ts.length) := by
  have hle := hs.length_le
  refine ⟨?_, by omega, Nat.sub_le _ _, hdepth⟩
  rw [ending_of_suffix record hs h, ending_of_suffix record (hr.trans hs) h', hrest, hcursor]

/-- Each turn of a level gets further, and what comes of the level is what comes of it after the turn. -/
theorem evaluate_turn (limit : Nat) (record : Record) (c : Cursor) (hi : i ≤ tokens.length) :
    (turn limit tokens record c i).Leads limit tokens record c i := by
  have hposition : tokens.length - (tokens.drop i).length = i := by rw [List.length_drop]; omega
  have hs := List.drop_suffix i tokens
  have hread := reads_readLevel limit c (tokens.drop i)
  rw [turn_eq]
  generalize (readLevel limit c (tokens.drop i)).reading = r at hread
  cases hread with
  | stop hm =>
    rw [hm]
    exact (ending_eq hi (.stop hm)).trans (by rw [hposition])
  | spoil hm =>
    rw [hm]
    exact ⟨ending_eq hi (.spoil hm), rfl⟩
  | pass hm hr =>
    have hnext := leads_next record hs (suffix_of_pass hm) (length_lt_of_pass hm) (.pass hm hr) hr rfl
      rfl rfl
    rw [hposition] at hnext
    rw [hm]; exact hnext
  | full hm hl =>
    rw [hm]
    dsimp only
    rw [groupTurn, if_neg (Nat.not_lt.mpr hl)]
    exact ⟨ending_eq hi (.full hm hl), rfl⟩
  | exhaust hm hl hg he =>
    rw [hm]
    dsimp only
    rw [groupTurn_eq ((suffix_of_enter hm).trans hs) hg, if_pos hl, if_pos he]
    exact ⟨ending_eq hi (.exhaust hm hl hg he), rfl⟩
  | @group _ _ _ inside g r hm hl hg he hr =>
    rw [hm]
    dsimp only
    rw [groupTurn_eq ((suffix_of_enter hm).trans hs) hg, if_pos hl, if_neg (by simp [he])]
    have hsuffix := (skipClosing_suffix g.rest).trans hg.suffix
    have hlt : (skipClosing g.rest).length < (tokens.drop i).length :=
      Nat.lt_of_le_of_lt hsuffix.length_le (length_lt_of_enter hm)
    have hnext := leads_next record hs (hsuffix.trans (suffix_of_enter hm)) hlt (.group hm hl hg he hr) hr
      rfl rfl (by simp [hg.depth_eq])
    rw [hposition] at hnext
    exact hnext

def takeTurns (limit : Nat) (tokens : List Token) (record : Record) (c : Cursor) (i : Nat) :
    Nat → Option (Nat × Cursor)
  | 0 => none
  | turns + 1 =>
    match turn limit tokens record c i with
    | .stop => some (i, c)
    | .leave j c' => some (j, c')
    | .next j c' => takeTurns limit tokens record c' j turns

/-- The turns come to an end, and to that of the evaluation: a level has no more turns than tokens, and one to stop. -/
theorem takeTurns_eq (hi : i ≤ tokens.length) {turns : Nat} (hturns : tokens.length - i < turns) :
    takeTurns limit tokens record c i turns = some (ending limit tokens record c i) := by
  induction turns generalizing c i with
  | zero => omega
  | succ turns ih =>
    have hleads := evaluate_turn limit record c hi
    rw [takeTurns]
    cases hturn : turn limit tokens record c i with
    | stop =>
      rw [hturn] at hleads
      exact congrArg some hleads.symm
    | leave j c' =>
      rw [hturn] at hleads
      exact congrArg some hleads.1.symm
    | next j c' =>
      rw [hturn] at hleads
      obtain ⟨hend, hlt, hj, -⟩ := hleads
      dsimp only
      rw [ih hj (by omega), hend]

theorem groupAt?_bounds {start : Nat} (h : groupAt? tokens i = some start) : i < start ∧ start ≤ tokens.length := by
  have hlt : ∀ {j : Nat} {k : TokenKind}, tokens[j]?.map Token.kind = some k → j < tokens.length := by
    intro j k hj
    obtain ⟨t, ht, -⟩ := Option.map_eq_some_iff.mp hj
    exact (List.getElem?_eq_some_iff.mp ht).1
  unfold groupAt? at h
  split at h
  · rename_i hk
    have := hlt hk
    cases h; omega
  · rename_i hk
    have := hlt hk
    cases h; omega
  · cases h

end

/-! ## Whole evaluations -/

/-- The turns of an evaluation, and those of the groups that are entered in its course. -/
inductive Visited (limit : Nat) (tokens : List Token) (record : Record) (c : Cursor) (start : Nat) :
    Cursor → Nat → Prop
  | start : Visited limit tokens record c start c start
  | next {c' i c'' j} : Visited limit tokens record c start c' i → turn limit tokens record c' i = .next j c'' →
      Visited limit tokens record c start c'' j
  | inside {c' i j} : Visited limit tokens record c start c' i → groupAt? tokens i = some j → c'.depth < limit →
      Visited limit tokens record c start c'.opened j

section
variable {limit : Nat} {tokens : List Token} {c : Cursor} {start : Nat}

theorem Visited.bounds {record : Record} {c' : Cursor} {i : Nat}
    (h : Visited limit tokens record c start c' i) (hstart : start ≤ tokens.length) (hdepth : c.depth ≤ limit) :
    c'.depth ≤ limit ∧ start ≤ i ∧ i ≤ tokens.length := by
  induction h with
  | start => exact ⟨hdepth, Nat.le_refl _, hstart⟩
  | @next c' i c'' j _ hturn ih =>
    obtain ⟨hd, hle, hlen⟩ := ih
    have hleads := evaluate_turn limit record c' hlen
    rw [hturn] at hleads
    obtain ⟨-, hlt, hj, hsame⟩ := hleads
    exact ⟨by omega, by omega, hj⟩
  | inside _ hgroup hlt ih =>
    obtain ⟨hlt', hj⟩ := groupAt?_bounds hgroup
    exact ⟨hlt, by omega, hj⟩

theorem ending_bounds (record : Record) (hstart : start ≤ tokens.length) :
    start ≤ (ending limit tokens record c start).1 ∧ (ending limit tokens record c start).1 ≤ tokens.length := by
  have hread := reads_readLevel limit c (tokens.drop start)
  have hle := hread.length_le
  rw [List.length_drop] at hle
  rw [ending_eq hstart hread]
  exact ⟨by dsimp only; omega, Nat.sub_le _ _⟩

theorem ending_at_boundary (record : Record) (hstart : start ≤ tokens.length) :
    (ending limit tokens record c start).1 = tokens.length ∨
      ∃ t, tokens[(ending limit tokens record c start).1]? = some t ∧ t.kind = .rparen := by
  have hread := reads_readLevel limit c (tokens.drop start)
  have hsuffix := hread.suffix.trans (List.drop_suffix start tokens)
  rw [ending_eq hstart hread]
  rcases hread.rest_eq_nil_or_rparen with hrest | ⟨t, us, hrest, hk⟩
  · rw [hrest]; exact .inl rfl
  · have hdrop := drop_of_suffix hsuffix
    rw [hrest] at hdrop ⊢
    exact .inr ⟨t, getElem?_of_drop hdrop, hk⟩

/-- Every evaluation comes to an end, at the end of the tokens or before a closing parenthesis, and leaves as many
groups open as it found. Until then no turn has more groups open than allowed, and each gets further or is the last
one of its level; a condition is malformed or takes two tokens and more. -/
theorem evaluate_progresses (hstart : start ≤ tokens.length) (hdepth : c.depth ≤ limit) (record : Record) :
    (start ≤ (evaluate limit tokens record c start).1.2 ∧
      (evaluate limit tokens record c start).1.2 ≤ tokens.length) ∧
    ((evaluate limit tokens record c start).1.2 = tokens.length ∨
      ∃ t, tokens[(evaluate limit tokens record c start).1.2]? = some t ∧ t.kind = .rparen) ∧
    (evaluate limit tokens record c start).2.depth = c.depth ∧
    (∀ turns > tokens.length - start, takeTurns limit tokens record c start turns =
      some ((evaluate limit tokens record c start).1.2, (evaluate limit tokens record c start).2)) ∧
    (∀ c' i, Visited limit tokens record c start c' i → c'.depth ≤ limit ∧ start ≤ i ∧ i ≤ tokens.length ∧
      (turn limit tokens record c' i).Leads limit tokens record c' i ∧
      ∀ j, groupAt? tokens i = some j → i < j ∧ j ≤ tokens.length) ∧
    ∀ i, (evaluateCondition tokens record i).2 = i ∨
      i + 2 ≤ (evaluateCondition tokens record i).2 ∧ (evaluateCondition tokens record i).2 ≤ tokens.length := by
  refine ⟨ending_bounds record hstart, ending_at_boundary record hstart, ?_, fun turns => takeTurns_eq hstart,
    fun c' i h => ?_, evaluateCondition_bounds tokens record⟩
  · have hread := reads_readLevel limit c (tokens.drop start)
    rw [evaluate_eq hread]
    exact hread.depth_eq
  · obtain ⟨hd, hle, hlen⟩ := h.bounds hstart hdepth
    exact ⟨hd, hle, hlen, evaluate_turn limit record c' hlen, fun j => groupAt?_bounds⟩

end

/-- `x and not ( y ) z ) not`: a malformed condition, a group behind `not`, a stray parenthesis and a stray `not`. -/
def strays : List Token :=
  [.ofText ['x'], .ofText ['a', 'n', 'd'], .ofText ['n', 'o', 't'], .ofText ['('], .ofText ['y'], .ofText [')'],
    .ofText ['z'], .ofText [')'], .ofText ['n', 'o', 't']]

theorem evaluate_progresses_strays :
    1 ≤ strays.length ∧ ({} : Cursor).depth ≤ 1 ∧ Visited 1 strays [] {} 1 ⟨1, false⟩ 4 ∧
      (turn 1 strays [] ⟨1, false⟩ 4).Leads 1 strays [] ⟨1, false⟩ 4 := by
  have hvisited : Visited 1 strays [] {} 1 ⟨1, false⟩ 4 :=
    .inside (.next .start (show turn 1 strays [] {} 1 = .next 2 {} by rfl)) (by decide) (by decide)
  have h := evaluate_progresses (show 1 ≤ strays.length by decide) (show ({} : Cursor).depth ≤ 1 by decide) []
  exact ⟨by decide, by decide, hvisited, (h.2.2.2.2.1 _ _ hvisited).2.2.2.1⟩

end DocStore.Query
