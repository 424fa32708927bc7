import DocStore.Query.Condition
import DocStore.Query.Pending
import DocStore.Query.Token

/-!
# Evaluation

Tokens are evaluated level by level. A level is a row of conditions and groups in parentheses, either possibly negated,
with joins between them, and what comes of each is pushed at once. It ends with the tokens or before a closing
parenthesis that it did not open. The cursor counts the groups that are open; one group too many exhausts it, and makes
every level around it false. So does a `not` with nothing behind it for its own level.
-/

namespace DocStore.Query

/-! ## Conditions among tokens -/

def joinTexts : List Token → List Char
  | [] => []
  | [t] => t.text
  | t :: rest => t.text ++ ' ' :: joinTexts rest

/-- The condition at the front: a token for the field, one for the operator, and as value all tokens up to the
next boundary. It needs three tokens, of whatever kind. -/
def readCondition? (ts : List Token) : Option (Condition × List Token) :=
  match ts with
  | field :: op :: value :: rest =>
    let inValue (t : Token) := !t.isBoundary
    let values := (value :: rest).takeWhile inValue
    some (⟨String.ofList field.text, Operator.ofText? op.text, coerceChars (joinTexts values)⟩,
      (value :: rest).dropWhile inValue)
  | _ => none

theorem length_lt_of_readCondition? {ts : List Token} {r : Condition × List Token}
    (h : readCondition? ts = some r) : r.2.length + 2 ≤ ts.length := by
  match ts, h with
  | _ :: _ :: value :: rest, h =>
    cases h
    have hdrop := (List.dropWhile_suffix (l := value :: rest) fun t : Token => !t.isBoundary).length_le
    simp only [List.length_cons] at hdrop ⊢
    omega

/-- With fewer than three tokens left a condition is false and takes none. -/
def evaluateCondition (tokens : List Token) (record : Record) (start : Nat) : Bool × Nat :=
  match readCondition? (tokens.drop start) with
  | none => (false, start)
  | some (condition, rest) => (condition.holds record, tokens.length - rest.length)

/-- A condition is malformed and takes no token, or it takes two and more. -/
theorem evaluateCondition_bounds (tokens : List Token) (record : Record) (i : Nat) :
    (evaluateCondition tokens record i).2 = i ∨
      i + 2 ≤ (evaluateCondition tokens record i).2 ∧ (evaluateCondition tokens record i).2 ≤ tokens.length := by
  unfold evaluateCondition
  cases hr : readCondition? (tokens.drop i) with
  | none => exact .inl rfl
  | some r =>
    have htaken := length_lt_of_readCondition? hr
    rw [List.length_drop] at htaken
    exact .inr ⟨by dsimp only; omega, Nat.sub_le _ _⟩

theorem lt_evaluateCondition {tokens : List Token} {record : Record} {i : Nat}
    (h : (evaluateCondition tokens record i).2 ≠ i) : i < (evaluateCondition tokens record i).2 := by
  have hbounds := evaluateCondition_bounds tokens record i
  omega

/-! ## Groups -/

structure Cursor where
  depth : Nat := 0
  exhausted : Bool := false
deriving DecidableEq, Repr

namespace Cursor

def opened (c : Cursor) : Cursor :=
  { c with depth := c.depth + 1 }

def closed (c : Cursor) : Cursor :=
  { c with depth := c.depth - 1 }

variable (c : Cursor)

@[simp] theorem opened_depth : c.opened.depth = c.depth + 1 := rfl
@[simp] theorem opened_exhausted : c.opened.exhausted = c.exhausted := rfl
@[simp] theorem closed_depth : c.closed.depth = c.depth - 1 := rfl
@[simp] theorem closed_exhausted : c.closed.exhausted = c.exhausted := rfl
@[simp] theorem closed_opened : c.opened.closed = c := rfl

end Cursor

def pastClosing (tokens : List Token) (i : Nat) : Nat :=
  if tokens[i]?.any (·.kind = .rparen) then i + 1 else i

theorem le_pastClosing (tokens : List Token) (i : Nat) : i ≤ pastClosing tokens i := by
  unfold pastClosing
  split
  · exact Nat.le_succ i
  · exact Nat.le_refl i

/-- What an evaluation comes to that started at a position: its value, where it ends, and the cursor that it leaves. -/
structure Ended (start : Nat) where
  value : Bool
  position : Nat
  cursor : Cursor
  start_le : start ≤ position

namespace Ended

variable {i j : Nat}

def since (h : i ≤ j) (ended : Ended j) : Ended i :=
  { ended with start_le := Nat.le_trans h ended.start_le }

def outcome (ended : Ended i) : (Bool × Nat) × Cursor :=
  ((ended.value, ended.position), ended.cursor)

end Ended

def evaluateGroup (limit : Nat) (tokens : List Token) (c : Cursor) {start : Nat} (hstart : start ≤ tokens.length)
    (inside : Cursor → Ended start) : Ended start :=
  if c.depth < limit then
    let ended := inside c.opened
    ⟨ended.value, pastClosing tokens ended.position, ended.cursor.closed,
      Nat.le_trans ended.start_le (le_pastClosing tokens ended.position)⟩
  else ⟨false, tokens.length, { c with exhausted := true }, hstart⟩

/-! ## Levels -/

/-- Evaluates the rest of a level, with what has come of it up to a position. -/
def evaluateFrom (limit : Nat) (tokens : List Token) (record : Record) (p : Pending) (c : Cursor) (i : Nat) :
    Ended i :=
  if h : i < tokens.length then
    match tokens[i].kind with
    | .lparen =>
      let group := evaluateGroup limit tokens c h fun c => evaluateFrom limit tokens record {} c (i + 1)
      if group.cursor.exhausted then ⟨false, tokens.length, group.cursor, Nat.le_of_lt h⟩
      else (evaluateFrom limit tokens record (p.push group.value) group.cursor group.position).since
        (Nat.le_of_lt group.start_le)
    | .rparen => ⟨p.value, i, c, Nat.le_refl i⟩
    | .keyword .not =>
      if h' : i + 1 < tokens.length then
        if tokens[i + 1].kind = .lparen then
          let group := evaluateGroup limit tokens c h' fun c => evaluateFrom limit tokens record {} c (i + 2)
          if group.cursor.exhausted then ⟨false, tokens.length, group.cursor, Nat.le_of_lt h⟩
          else (evaluateFrom limit tokens record (p.push (!group.value)) group.cursor group.position).since
            (Nat.le_of_lt (Nat.lt_of_succ_lt group.start_le))
        else
          let tested := evaluateCondition tokens record (i + 1)
          -- nothing behind the `not` can be negated
          if hnone : tested.2 = i + 1 then ⟨false, tokens.length, c, Nat.le_of_lt h⟩
          else (evaluateFrom limit tokens record (p.push (!tested.1)) c tested.2).since
            (Nat.le_of_lt (Nat.lt_of_succ_lt (lt_evaluateCondition hnone)))
      else ⟨false, i + 1, c, Nat.le_succ i⟩
    | .keyword .and => (evaluateFrom limit tokens record (p.enqueue .and) c (i + 1)).since (Nat.le_succ i)
    | .keyword .or => (evaluateFrom limit tokens record (p.enqueue .or) c (i + 1)).since (Nat.le_succ i)
    | _ =>
      let tested := evaluateCondition tokens record i
      (evaluateFrom limit tokens record (p.push tested.1) c (max tested.2 (i + 1))).since
        (Nat.le_of_lt (Nat.le_max_right tested.2 (i + 1)))
  else ⟨p.value, i, c, Nat.le_refl i⟩
termination_by tokens.length - i
decreasing_by
  · omega
  · exact Nat.sub_lt_sub_left h group.start_le
  · omega
  · exact Nat.sub_lt_sub_left h (Nat.le_of_succ_le group.start_le)
  · exact Nat.sub_lt_sub_left h (Nat.lt_of_succ_lt (lt_evaluateCondition hnone))
  · omega
  · omega
  · omega

def evaluate (limit : Nat) (tokens : List Token) (record : Record) (cursor : Cursor) (start : Nat) :
    (Bool × Nat) × Cursor :=
  (evaluateFrom limit tokens record {} cursor start).outcome

/-- Evaluates all tokens with a fresh cursor. An exhausted cursor makes the whole query false. -/
def run (limit : Nat) (tokens : List Token) (record : Record) : Bool × Cursor :=
  let ended := evaluate limit tokens record {} 0
  (ended.1.1 && !ended.2.exhausted, ended.2)

end DocStore.Query
