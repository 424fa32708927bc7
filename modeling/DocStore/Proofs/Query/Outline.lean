import DocStore.Query.Evaluation

/-!
# Outline of a query

Evaluation in two stages. First the tokens are read without a record: a level becomes a row of steps, which are
conditions, groups in parentheses, either possibly negated, and the joins that were met. A level that cannot be read
is spoiled: it is false as a whole and takes up all tokens. Then the steps are worked off on a record.
-/

namespace DocStore.Query

/-- What one level of a query consists of. A condition without enough tokens is none, and false. -/
inductive Step where
  | join (j : Join)
  | test (negated : Bool) (condition : Option Condition)
  | group (negated spoiled : Bool) (steps : List Step)

/-- A level that was read from the front of `ts`, and what is left. -/
structure Level (ts : List Token) where
  steps : List Step
  spoiled : Bool
  cursor : Cursor
  rest : List Token
  length_le : rest.length ≤ ts.length

namespace Level

def spoil (cursor : Cursor) (ts : List Token) : Level ts :=
  ⟨[], true, cursor, [], Nat.zero_le _⟩

def after {ts us : List Token} (step : Step) (h : us.length ≤ ts.length) (level : Level us) : Level ts :=
  ⟨step :: level.steps, level.spoiled, level.cursor, level.rest, Nat.le_trans level.length_le h⟩

end Level

/-! ## Reading -/

def skipClosing : List Token → List Token
  | [] => []
  | t :: rest => if t.kind = .rparen then rest else t :: rest

theorem skipClosing_suffix (ts : List Token) : skipClosing ts <:+ ts := by
  cases ts with
  | nil => exact List.suffix_refl _
  | cons t ts =>
    rw [skipClosing]
    split
    · exact List.suffix_cons t ts
    · exact List.suffix_refl _

def readGroup (limit : Nat) (cursor : Cursor) (ts : List Token) (inside : Cursor → Level ts) : Level ts :=
  if cursor.depth < limit then
    let level := inside cursor.opened
    { level with
      cursor := level.cursor.closed
      rest := skipClosing level.rest
      length_le := Nat.le_trans (skipClosing_suffix _).length_le level.length_le }
  else .spoil { cursor with exhausted := true } ts

def readLevel (limit : Nat) (cursor : Cursor) (ts : List Token) : Level ts :=
  match ts with
  | [] => ⟨[], false, cursor, [], Nat.le_refl _⟩
  | t :: rest =>
    match t.kind with
    | .rparen => ⟨[], false, cursor, t :: rest, Nat.le_refl _⟩
    | .lparen =>
      let group := readGroup limit cursor rest fun cursor => readLevel limit cursor rest
      if group.cursor.exhausted then .spoil group.cursor _
      else (readLevel limit group.cursor group.rest).after (.group false group.spoiled group.steps)
        (Nat.le_succ_of_le group.length_le)
    | .keyword .and => (readLevel limit cursor rest).after (.join .and) (Nat.le_succ _)
    | .keyword .or => (readLevel limit cursor rest).after (.join .or) (Nat.le_succ _)
    | .keyword .not =>
      match rest with
      | [] => .spoil cursor _
      | t' :: rest' =>
        if t'.kind = .lparen then
          let group := readGroup limit cursor rest' fun cursor => readLevel limit cursor rest'
          if group.cursor.exhausted then .spoil group.cursor _
          else (readLevel limit group.cursor group.rest).after (.group true group.spoiled group.steps)
            (by have := group.length_le; simp only [List.length_cons]; omega)
        else
          match h : readCondition? (t' :: rest') with
          | none => .spoil cursor _
          | some (condition, after) => (readLevel limit cursor after).after (.test true (some condition))
            (by have := length_lt_of_readCondition? h; simp only [List.length_cons] at this ⊢; omega)
    | _ =>
      match h : readCondition? (t :: rest) with
      | none => (readLevel limit cursor rest).after (.test false none) (Nat.le_succ _)
      | some (condition, after) => (readLevel limit cursor after).after (.test false (some condition))
          (Nat.le_trans (Nat.le_add_right _ 2) (length_lt_of_readCondition? h))
termination_by ts.length
decreasing_by
  all_goals simp only [List.length_cons]
  · exact Nat.lt_succ_self _
  · exact Nat.lt_succ_of_le group.length_le
  · exact Nat.lt_succ_self _
  · exact Nat.lt_succ_self _
  · exact Nat.lt_succ_of_lt (Nat.lt_succ_self _)
  · exact Nat.lt_succ_of_le (Nat.le_succ_of_le group.length_le)
  · have := length_lt_of_readCondition? h
    simp only [List.length_cons] at this
    omega
  · exact Nat.lt_succ_self _
  · have := length_lt_of_readCondition? h
    simp only [List.length_cons] at this
    omega

/-! ## Working off -/

mutual

def Step.apply (record : Record) (p : Pending) : Step → Pending
  | .join j => p.enqueue j
  | .test negated condition => p.push (negated ^^ condition.any (·.holds record))
  | .group negated spoiled steps => p.push (negated ^^ (!spoiled && (applySteps record {} steps).value))

def applySteps (record : Record) (p : Pending) : List Step → Pending
  | [] => p
  | step :: steps => applySteps record (step.apply record p) steps

end

end DocStore.Query
