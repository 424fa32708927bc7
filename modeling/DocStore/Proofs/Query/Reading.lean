import DocStore.Proofs.Query.Outline

/-!
# Rules of reading a level

`Reads limit c ts r`: with the groups counted by `c` open, the tokens `ts` are read as `r`. Each rule is one thing
that a level does at the front of its tokens (`move`), so a proof about all readings has six cases. The reader
follows the rules (`reads_iff`).
-/

namespace DocStore.Query

structure Reading where
  steps : List Step
  spoiled : Bool
  cursor : Cursor
  rest : List Token

namespace Reading

def spoil (c : Cursor) : Reading :=
  ⟨[], true, c, []⟩

def after (step : Step) (r : Reading) : Reading :=
  { r with steps := step :: r.steps }

variable (c : Cursor) (step : Step) (r : Reading)

@[simp] theorem spoil_steps : (spoil c).steps = [] := rfl
@[simp] theorem spoil_spoiled : (spoil c).spoiled = true := rfl
@[simp] theorem spoil_cursor : (spoil c).cursor = c := rfl
@[simp] theorem spoil_rest : (spoil c).rest = [] := rfl
@[simp] theorem after_steps : (r.after step).steps = step :: r.steps := rfl
@[simp] theorem after_spoiled : (r.after step).spoiled = r.spoiled := rfl
@[simp] theorem after_cursor : (r.after step).cursor = r.cursor := rfl
@[simp] theorem after_rest : (r.after step).rest = r.rest := rfl

end Reading

def Level.reading {ts : List Token} (level : Level ts) : Reading :=
  ⟨level.steps, level.spoiled, level.cursor, level.rest⟩

/-- What a level does next: it ends, cannot go on, passes over a join or a condition, or enters a group. -/
inductive Move where
  | stop
  | spoil
  | pass (step : Step) (rest : List Token)
  | enter (negated : Bool) (inside : List Token)

def move : List Token → Move
  | [] => .stop
  | t :: rest =>
    match t.kind with
    | .rparen => .stop
    | .lparen => .enter false rest
    | .keyword .and => .pass (.join .and) rest
    | .keyword .or => .pass (.join .or) rest
    | .keyword .not =>
      match rest with
      | [] => .spoil
      | t' :: rest' =>
        if t'.kind = .lparen then .enter true rest'
        else
          match readCondition? (t' :: rest') with
          | none => .spoil
          | some (condition, after) => .pass (.test true (some condition)) after
    | _ =>
      match readCondition? (t :: rest) with
      | none => .pass (.test false none) rest
      | some (condition, after) => .pass (.test false (some condition)) after

/-! ## What stands at the front -/

def Join.keyword : Join → Keyword
  | .and => .and
  | .or => .or

theorem isBoundary_eq_false {t : Token} (hr : t.kind ≠ .rparen) (ha : t.kind ≠ .keyword .and)
    (ho : t.kind ≠ .keyword .or) (hn : t.kind ≠ .keyword .not) : t.isBoundary = false := by
  unfold Token.isBoundary
  split
  · rename_i k hk
    cases k
    · exact absurd hk ha
    · exact absurd hk ho
    · exact absurd hk hn
  · rename_i hk; exact absurd hk hr
  · rfl

theorem move_plain {t : Token} (hb : t.isBoundary = false) (hp : t.kind ≠ .lparen) (rest : List Token) :
    move (t :: rest) = match readCondition? (t :: rest) with
      | none => .pass (.test false none) rest
      | some (condition, after) => .pass (.test false (some condition)) after := by
  unfold move Token.isBoundary at *
  cases hk : t.kind with
  | lparen => exact absurd hk hp
  | keyword k => simp [hk] at hb
  | rparen => simp [hk] at hb
  | _ => simp only [hk]

theorem move_not {ts : List Token} (hp : ∀ t ∈ ts.head?, t.kind ≠ .lparen) (word : List Char) :
    move (⟨.keyword .not, word⟩ :: ts) = match readCondition? ts with
      | none => .spoil
      | some (condition, after) => .pass (.test true (some condition)) after := by
  cases ts with
  | nil => rfl
  | cons t us =>
    have hparen : t.kind ≠ .lparen := hp t rfl
    cases hr : readCondition? (t :: us) <;> simp [move, hparen, hr]

theorem move_join (join : Join) (word : List Char) (rest : List Token) :
    move (⟨.keyword join.keyword, word⟩ :: rest) = .pass (.join join) rest := by
  cases join <;> rfl

inductive Front : List Token → Move → Prop
  | nil : Front [] .stop
  | rparen {t us} : t.kind = .rparen → Front (t :: us) .stop
  | lparen {t us} : t.kind = .lparen → Front (t :: us) (.enter false us)
  | join (join word us) : Front (⟨.keyword join.keyword, word⟩ :: us) (.pass (.join join) us)
  | lacking {t us} : t.isBoundary = false → t.kind ≠ .lparen → readCondition? (t :: us) = none →
      Front (t :: us) (.pass (.test false none) us)
  | test {t us condition after} : t.isBoundary = false → t.kind ≠ .lparen →
      readCondition? (t :: us) = some (condition, after) → Front (t :: us) (.pass (.test false (some condition)) after)
  | notGroup {word t us} : t.kind = .lparen → Front (⟨.keyword .not, word⟩ :: t :: us) (.enter true us)
  | notLacking {word us} : (∀ t ∈ us.head?, t.kind ≠ .lparen) → readCondition? us = none →
      Front (⟨.keyword .not, word⟩ :: us) .spoil
  | notTest {word us condition after} : (∀ t ∈ us.head?, t.kind ≠ .lparen) →
      readCondition? us = some (condition, after) →
      Front (⟨.keyword .not, word⟩ :: us) (.pass (.test true (some condition)) after)

theorem front (ts : List Token) : Front ts (move ts) := by
  cases ts with
  | nil => exact .nil
  | cons t us =>
    by_cases hplain : t.isBoundary = false ∧ t.kind ≠ .lparen
    · rw [move_plain hplain.1 hplain.2]
      cases hr : readCondition? (t :: us) with
      | none => exact .lacking hplain.1 hplain.2 hr
      | some r => exact .test hplain.1 hplain.2 hr
    · obtain ⟨kind, word⟩ := t
      cases kind with
      | lparen => exact .lparen rfl
      | rparen => exact .rparen rfl
      | keyword k =>
        cases k with
        | and => exact .join .and word us
        | or => exact .join .or word us
        | not =>
          by_cases hp : ∀ t ∈ us.head?, t.kind ≠ .lparen
          · rw [move_not hp]
            cases hr : readCondition? us with
            | none => exact .notLacking hp hr
            | some r => exact .notTest hp hr
          · cases us with
            | nil => simp at hp
            | cons t' us =>
              have hparen : t'.kind = .lparen := by simpa using hp
              have hmove : move (⟨.keyword .not, word⟩ :: t' :: us) = .enter true us := by simp [move, hparen]
              rw [hmove]
              exact .notGroup hparen
      | _ => exact absurd ⟨rfl, by simp⟩ hplain

theorem front_of_move {ts : List Token} {m : Move} (h : move ts = m) : Front ts m :=
  h ▸ front ts

/-! ## Moves take tokens -/

theorem suffix_of_readCondition? {ts after : List Token} {condition : Condition}
    (h : readCondition? ts = some (condition, after)) : after <:+ ts := by
  match ts, h with
  | field :: sign :: value :: values, h =>
    cases h
    exact (List.dropWhile_suffix _).trans ((List.suffix_cons sign _).trans (List.suffix_cons field _))

section
variable {ts rest : List Token} {step : Step}

theorem length_lt_of_pass (h : move ts = .pass step rest) : rest.length < ts.length := by
  cases front_of_move h with
  | join => exact Nat.lt_succ_self _
  | lacking => exact Nat.lt_succ_self _
  | test _ _ hr => exact Nat.lt_of_lt_of_le (Nat.lt_add_of_pos_right Nat.two_pos) (length_lt_of_readCondition? hr)
  | notTest _ hr =>
    have hlength := length_lt_of_readCondition? hr
    simp only [List.length_cons] at hlength ⊢
    omega

theorem suffix_of_pass (h : move ts = .pass step rest) : rest <:+ ts := by
  cases front_of_move h with
  | join => exact List.suffix_cons _ _
  | lacking => exact List.suffix_cons _ _
  | test _ _ hr => exact suffix_of_readCondition? hr
  | notTest _ hr => exact (suffix_of_readCondition? hr).trans (List.suffix_cons _ _)

theorem join_or_test_of_pass (h : move ts = .pass step rest) :
    (∃ j, step = .join j) ∨ ∃ negated condition, step = .test negated condition := by
  cases front_of_move h with
  | join => exact .inl ⟨_, rfl⟩
  | lacking | test | notTest => exact .inr ⟨_, _, rfl⟩

end

section
variable {ts inside : List Token} {negated : Bool}

theorem length_lt_of_enter (h : move ts = .enter negated inside) : inside.length < ts.length := by
  cases front_of_move h with
  | lparen => exact Nat.lt_succ_self _
  | notGroup => exact Nat.lt_succ_of_lt (Nat.lt_succ_self _)

theorem suffix_of_enter (h : move ts = .enter negated inside) : inside <:+ ts := by
  cases front_of_move h with
  | lparen => exact List.suffix_cons _ _
  | notGroup => exact (List.suffix_cons _ _).trans (List.suffix_cons _ _)

end

/-! ## The rules -/

inductive Reads (limit : Nat) : Cursor → List Token → Reading → Prop
  | stop {c ts} : move ts = .stop → Reads limit c ts ⟨[], false, c, ts⟩
  | spoil {c ts} : move ts = .spoil → Reads limit c ts (.spoil c)
  | pass {c ts step rest r} : move ts = .pass step rest → Reads limit c rest r → Reads limit c ts (r.after step)
  | full {c ts negated inside} : move ts = .enter negated inside → limit ≤ c.depth →
      Reads limit c ts (.spoil { c with exhausted := true })
  /-- A group that is exhausted inside spoils the level around it. -/
  | exhaust {c ts negated inside g} : move ts = .enter negated inside → c.depth < limit →
      Reads limit c.opened inside g → g.cursor.exhausted = true → Reads limit c ts (.spoil g.cursor.closed)
  | group {c ts negated inside g r} : move ts = .enter negated inside → c.depth < limit →
      Reads limit c.opened inside g → g.cursor.exhausted = false →
      Reads limit g.cursor.closed (skipClosing g.rest) r →
      Reads limit c ts (r.after (.group negated g.spoiled g.steps))

theorem Reads.unique {limit : Nat} {c : Cursor} {ts : List Token} {r r' : Reading} (h : Reads limit c ts r)
    (h' : Reads limit c ts r') : r = r' := by
  induction h generalizing r' with
  | stop hm => cases h' with | stop => rfl | _ hm' => simp [hm] at hm'
  | spoil hm => cases h' with | spoil => rfl | _ hm' => simp [hm] at hm'
  | pass hm _ ih =>
    cases h' with
    | pass hm' h' => rw [hm] at hm'; cases hm'; rw [ih h']
    | _ hm' => simp [hm] at hm'
  | full hm hl =>
    cases h' with
    | full => rfl
    | exhaust _ hl' => omega
    | group _ hl' => omega
    | _ hm' => simp [hm] at hm'
  | exhaust hm hl _ he ih =>
    cases h' with
    | full _ hl' => omega
    | exhaust hm' _ hg _ => rw [hm] at hm'; cases hm'; rw [ih hg]
    | group hm' _ hg he' _ => rw [hm] at hm'; cases hm'; rw [ih hg, he'] at he; cases he
    | _ hm' => simp [hm] at hm'
  | group hm hl _ he _ ihg ih =>
    cases h' with
    | full _ hl' => omega
    | exhaust hm' _ hg he' => rw [hm] at hm'; cases hm'; rw [ihg hg, he'] at he; cases he
    | group hm' _ hg _ hr => rw [hm] at hm'; cases hm'; cases ihg hg; rw [ih hr]
    | _ hm' => simp [hm] at hm'

/-! ## The reader follows the rules -/

theorem reading_plain {limit : Nat} {c : Cursor} {t : Token} {rest : List Token} (hb : t.isBoundary = false)
    (hp : t.kind ≠ .lparen) :
    (readLevel limit c (t :: rest)).reading = match readCondition? (t :: rest) with
      | none => (readLevel limit c rest).reading.after (.test false none)
      | some (condition, after) => (readLevel limit c after).reading.after (.test false (some condition)) := by
  rw [readLevel.eq_def]
  unfold Token.isBoundary at hb
  dsimp only
  cases hk : t.kind with
  | lparen => exact absurd hk hp
  | keyword k => simp [hk] at hb
  | rparen => simp [hk] at hb
  | _ =>
    simp only
    split
    · rename_i hr; simp only [hr]; rfl
    · rename_i hr; simp only [hr]; rfl

section
variable {limit : Nat} {c : Cursor} {ts inside : List Token} {negated : Bool}
variable (hm : move ts = .enter negated inside)
variable (ih : ∀ c, Reads limit c inside (readLevel limit c inside).reading)
include hm ih

theorem reads_spoil_of_readGroup
    (he : (readGroup limit c inside fun c => readLevel limit c inside).cursor.exhausted = true) :
    Reads limit c ts (.spoil (readGroup limit c inside fun c => readLevel limit c inside).cursor) := by
  unfold readGroup at he ⊢
  by_cases hl : c.depth < limit
  · simp only [hl, if_true] at he ⊢
    exact .exhaust hm hl (ih c.opened) he
  · simp only [hl, if_false]
    exact .full hm (Nat.not_lt.mp hl)

theorem reads_after_readGroup {r : Reading}
    (he : ¬ (readGroup limit c inside fun c => readLevel limit c inside).cursor.exhausted = true)
    (hr : Reads limit (readGroup limit c inside fun c => readLevel limit c inside).cursor
      (readGroup limit c inside fun c => readLevel limit c inside).rest r) :
    Reads limit c ts (r.after (.group negated (readGroup limit c inside fun c => readLevel limit c inside).spoiled
      (readGroup limit c inside fun c => readLevel limit c inside).steps)) := by
  unfold readGroup at he hr ⊢
  by_cases hl : c.depth < limit
  · simp only [hl, if_true] at he hr ⊢
    exact .group hm hl (ih c.opened) (eq_false_of_ne_true he) hr
  · simp [hl, Level.spoil] at he

end

theorem reads_readLevel (limit : Nat) (c : Cursor) (ts : List Token) :
    Reads limit c ts (readLevel limit c ts).reading := by
  induction limit, c, ts using readLevel.induct with
  | case1 => rw [readLevel]; exact .stop rfl
  | case2 limit c t rest hk =>
    rw [readLevel.eq_def]; simp only [hk]
    exact .stop (by simp [move, hk])
  | case3 limit c t rest hk group he ih =>
    rw [readLevel.eq_def]; simp only [hk]; rw [if_pos he]
    have hm : move (t :: rest) = .enter false rest := by simp [move, hk]
    exact reads_spoil_of_readGroup hm ih he
  | case4 limit c t rest hk group he ih ih' =>
    rw [readLevel.eq_def]; simp only [hk]; rw [if_neg he]
    exact reads_after_readGroup (by simp [move, hk]) ih he ih'
  | case5 limit c t rest hk ih =>
    rw [readLevel.eq_def]; simp only [hk]
    exact .pass (by simp [move, hk]) ih
  | case6 limit c t rest hk ih =>
    rw [readLevel.eq_def]; simp only [hk]
    exact .pass (by simp [move, hk]) ih
  | case7 limit c t hk =>
    rw [readLevel.eq_def]; simp only [hk]
    exact .spoil (by simp [move, hk])
  | case8 limit c t hk t' rest hk' group he ih =>
    rw [readLevel.eq_def]; simp only [hk]; rw [if_pos hk', if_pos he]
    have hm : move (t :: t' :: rest) = .enter true rest := by simp [move, hk, hk']
    exact reads_spoil_of_readGroup hm ih he
  | case9 limit c t hk t' rest hk' group he ih ih' =>
    rw [readLevel.eq_def]; simp only [hk]; rw [if_pos hk', if_neg he]
    exact reads_after_readGroup (by simp [move, hk, hk']) ih he ih'
  | case10 limit c t hk t' rest hk' hr =>
    rw [readLevel.eq_def]; simp only [hk]; rw [if_neg hk']
    have hm : move (t :: t' :: rest) = .spoil := by simp [move, hk, hk', hr]
    split
    · exact .spoil hm
    · rename_i hr'; rw [hr] at hr'; cases hr'
  | case11 limit c t hk t' rest hk' condition after hr ih =>
    rw [readLevel.eq_def]; simp only [hk]; rw [if_neg hk']
    have hm : move (t :: t' :: rest) = .pass (.test true (some condition)) after := by simp [move, hk, hk', hr]
    split
    · rename_i hr'; rw [hr] at hr'; cases hr'
    · rename_i hr'; rw [hr] at hr'; cases hr'; exact .pass hm ih
  | case12 limit c t rest hr h1 h2 h3 h4 h5 ih =>
    have hb := isBoundary_eq_false h1 h3 h4 h5
    rw [reading_plain hb h2, hr]
    exact .pass (by rw [move_plain hb h2, hr]) ih
  | case13 limit c t rest condition after hr h1 h2 h3 h4 h5 ih =>
    have hb := isBoundary_eq_false h1 h3 h4 h5
    rw [reading_plain hb h2, hr]
    exact .pass (by rw [move_plain hb h2, hr]) ih

theorem reads_iff {limit : Nat} {c : Cursor} {ts : List Token} {r : Reading} :
    Reads limit c ts r ↔ (readLevel limit c ts).reading = r :=
  ⟨fun h => (reads_readLevel limit c ts).unique h, fun h => h ▸ reads_readLevel limit c ts⟩

def Reading.holds (r : Reading) (record : Record) : Bool :=
  !r.spoiled && (applySteps record {} r.steps).value

end DocStore.Query
