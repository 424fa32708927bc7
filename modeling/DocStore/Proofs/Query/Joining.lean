import DocStore.Proofs.Query.Staging
import Mathlib.Data.List.Induction

/-!
# Joining from left to right

What is worked off at one level is a row of events: a result is found, or a join is met. Results are stacked and joins
queue up, so after malformed steps the two may be out of step. As long as no more results have come than joins and one,
the joins that were used are the first ones to come, each between the results on its two sides (`Settled`), and the
level is worth its results joined from left to right. Whatever the events, what can be joined is joined at once.
-/

namespace DocStore.Query

/-! ## Events -/

inductive Event where
  | result (b : Bool)
  | join (j : Join)
deriving DecidableEq, Repr

namespace Event

def apply (p : Pending) : Event → Pending
  | result b => p.push b
  | join j => p.enqueue j

def result? : Event → Option Bool
  | result b => some b
  | join _ => none

def join? : Event → Option Join
  | result _ => none
  | join j => some j

end Event

/-- What the events come to, each followed by all the joining that it allows. -/
def workOff (events : List Event) : Pending :=
  events.foldl Event.apply {}

def resultsOf (events : List Event) : List Bool :=
  events.filterMap Event.result?

def joinsOf (events : List Event) : List Join :=
  events.filterMap Event.join?

/-- `(... ((first o₁ b₂) o₂ b₃) ...)`, as far as there are joins and results. -/
def joinedFrom (first : Bool) (js : List Join) (others : List Bool) : Bool :=
  (js.zip others).foldl (fun before link => link.1.apply before link.2) first

/-- At no time have more results come than joins and one. -/
def Linked (events : List Event) : Prop :=
  ∀ done, done <+: events → (resultsOf done).length ≤ (joinsOf done).length + 1

def Step.event (record : Record) : Step → Event
  | .join j => .join j
  | .test negated condition => .result (negated ^^ condition.any (·.holds record))
  | .group negated spoiled steps => .result (negated ^^ (!spoiled && (applySteps record {} steps).value))

theorem applySteps_eq_foldl (record : Record) (p : Pending) (steps : List Step) :
    applySteps record p steps = (steps.map (Step.event record)).foldl Event.apply p := by
  induction steps generalizing p with
  | nil => rw [applySteps]; rfl
  | cons step steps ih =>
    have hstep : step.apply record p = Event.apply p (step.event record) := by
      cases step <;> rw [Step.apply] <;> rfl
    rw [applySteps, hstep, ih]; rfl

section
variable (events : List Event)

theorem resultsOf_snoc_result (b : Bool) : resultsOf (events ++ [.result b]) = resultsOf events ++ [b] := by
  simp [resultsOf, Event.result?]

theorem resultsOf_snoc_join (j : Join) : resultsOf (events ++ [.join j]) = resultsOf events := by
  simp [resultsOf, Event.result?]

theorem joinsOf_snoc_result (b : Bool) : joinsOf (events ++ [.result b]) = joinsOf events := by
  simp [joinsOf, Event.join?]

theorem joinsOf_snoc_join (j : Join) : joinsOf (events ++ [.join j]) = joinsOf events ++ [j] := by
  simp [joinsOf, Event.join?]

theorem workOff_snoc (e : Event) : workOff (events ++ [e]) = e.apply (workOff events) := by
  simp [workOff]

end

/-! ## What joining leaves -/

namespace Pending

/-- Joining ends when there is one result at most, or no join. -/
theorem reduceWith_spent (rs : List Bool) (js : List Join) :
    (reduceWith rs js).results.length ≤ 1 ∨ (reduceWith rs js).joins = [] := by
  induction js generalizing rs with
  | nil => exact .inr rfl
  | cons j js ih =>
    match rs with
    | [] => exact .inl (Nat.zero_le 1)
    | [b] => exact .inl (Nat.le_refl 1)
    | right :: left :: others => exact ih (j.apply left right :: others)

theorem reduceWith_none (js : List Join) : reduceWith [] js = ⟨[], js⟩ := by
  cases js <;> rfl

theorem reduceWith_one (b : Bool) (js : List Join) : reduceWith [b] js = ⟨[b], js⟩ := by
  cases js <;> rfl

theorem reduceWith_two (left right : Bool) (j : Join) (js : List Join) :
    reduceWith [right, left] (j :: js) = ⟨[j.apply left right], js⟩ := by
  rw [reduceWith, reduceWith_one]

theorem apply_spent (p : Pending) (e : Event) : (e.apply p).results.length ≤ 1 ∨ (e.apply p).joins = [] := by
  cases e <;> exact reduceWith_spent _ _

end Pending

theorem workOff_spent (events : List Event) : (workOff events).results.length ≤ 1 ∨ (workOff events).joins = [] := by
  cases events using List.reverseRecOn with
  | nil => exact .inr rfl
  | append_singleton done e => rw [workOff_snoc]; exact (workOff done).apply_spent e

/-! ## Results and joins in step -/

theorem joinedFrom_snoc {js : List Join} {bs : List Bool} (h : js.length = bs.length) (first : Bool) (j : Join)
    (b : Bool) : joinedFrom first (js ++ [j]) (bs ++ [b]) = j.apply (joinedFrom first js bs) b := by
  simp [joinedFrom, List.zip_append h]

/-- Joins that have no result to their right do not count. -/
theorem joinedFrom_append {used : List Join} {bs : List Bool} (h : used.length = bs.length) (first : Bool)
    (waiting : List Join) : joinedFrom first (used ++ waiting) bs = joinedFrom first used bs := by
  have hzip : (used ++ waiting).zip bs = used.zip bs := by
    have happend : (used ++ waiting).zip (bs ++ []) = used.zip bs ++ waiting.zip [] := List.zip_append h
    rwa [List.append_nil, List.zip_nil_right, List.append_nil] at happend
  rw [joinedFrom, hzip, joinedFrom]

/-- Of the joins that came, the first ones have been used, one between any two results, and the others wait. -/
inductive Settled : List Bool → List Join → Pending → Prop where
  | none (js : List Join) : Settled [] js ⟨[], js⟩
  | some {first : Bool} {others : List Bool} {used waiting : List Join} : used.length = others.length →
      Settled (first :: others) (used ++ waiting) ⟨[joinedFrom first used others], waiting⟩

namespace Settled

variable {bs : List Bool} {js : List Join} {p : Pending}

theorem enqueue (h : Settled bs js p) (j : Join) : Settled bs (js ++ [j]) (p.enqueue j) := by
  cases h with
  | none =>
    have hp : Pending.enqueue ⟨[], js⟩ j = ⟨[], js ++ [j]⟩ := Pending.reduceWith_none _
    rw [hp]; exact .none _
  | @some first others used waiting hlength =>
    have hp : Pending.enqueue ⟨[joinedFrom first used others], waiting⟩ j =
        ⟨[joinedFrom first used others], waiting ++ [j]⟩ := Pending.reduceWith_one _ _
    rw [hp, List.append_assoc]; exact .some hlength

/-- One more result uses the join that has waited longest; there is one, as no more results come than joins and one. -/
theorem push (h : Settled bs js p) (b : Bool) (hlinked : bs.length ≤ js.length) : Settled (bs ++ [b]) js (p.push b) := by
  cases h with
  | none =>
    have hp : Pending.push ⟨[], js⟩ b = ⟨[b], js⟩ := Pending.reduceWith_one _ _
    have hnone : ([] : List Join).length = ([] : List Bool).length := rfl
    rw [hp]; exact .some hnone
  | @some first others used waiting hlength =>
    cases waiting with
    | nil =>
      rw [List.append_nil, List.length_cons] at hlinked
      omega
    | cons j waiting =>
      have hp : Pending.push ⟨[joinedFrom first used others], j :: waiting⟩ b =
          ⟨[j.apply (joinedFrom first used others) b], waiting⟩ := Pending.reduceWith_two _ _ _ _
      rw [hp, ← joinedFrom_snoc hlength, List.cons_append, List.append_cons used j waiting]
      exact .some (by simp [hlength])

theorem length_results_le (h : Settled bs js p) : p.results.length ≤ 1 := by
  cases h with
  | none => exact Nat.zero_le 1
  | some => exact Nat.le_refl 1

theorem value_eq {first : Bool} {others : List Bool} (h : Settled (first :: others) js p) :
    p.value = joinedFrom first js others := by
  cases h with
  | some hlength => rw [joinedFrom_append hlength]; rfl

end Settled

theorem Linked.of_append {done rest : List Event} (h : Linked (done ++ rest)) : Linked done :=
  fun earlier hearlier => h earlier (hearlier.trans (List.prefix_append done rest))

/-- The invariant holds at the start, and each event keeps it. -/
theorem Linked.settled {events : List Event} (h : Linked events) :
    Settled (resultsOf events) (joinsOf events) (workOff events) := by
  induction events using List.reverseRecOn with
  | nil => exact .none []
  | append_singleton done e ih =>
    have hdone := ih h.of_append
    rw [workOff_snoc]
    cases e with
    | join j =>
      rw [resultsOf_snoc_join, joinsOf_snoc_join]
      exact hdone.enqueue j
    | result b =>
      have hnow := h _ (List.prefix_refl _)
      rw [resultsOf_snoc_result, joinsOf_snoc_result, List.length_append] at hnow
      rw [resultsOf_snoc_result, joinsOf_snoc_result]
      exact hdone.push b (Nat.le_of_succ_le_succ hnow)

theorem linked_of_resultsOf_eq_nil {events : List Event} (h : resultsOf events = []) : Linked events := by
  rintro done ⟨rest, rfl⟩
  have hdone : resultsOf done = [] := by
    rw [resultsOf, List.filterMap_append] at h
    exact (List.append_eq_nil_iff.mp h).1
  rw [hdone]; exact Nat.zero_le _

/-- A level is worth what its events come to. Whatever they are, after each of them one result at most is left, or no
join, and without a result the level is true. As long as no more results have come than joins and one, one result at
most is left after each event, and the value is that of all results so far, joined from left to right by the joins in
the order in which they came. -/
theorem level_joins_from_left (limit : Nat) (tokens : List Token) (record : Record) (c : Cursor) (start : Nat) :
    (evaluate limit tokens record c start).1.1 = (!(readLevel limit c (tokens.drop start)).spoiled &&
      (workOff ((readLevel limit c (tokens.drop start)).steps.map (Step.event record))).value) ∧
    ∀ events,
      (∀ done, done <+: events → (workOff done).results.length ≤ 1 ∨ (workOff done).joins = []) ∧
      (resultsOf events = [] → (workOff events).value = true) ∧
      (Linked events → ∀ done, done <+: events → (workOff done).results.length ≤ 1 ∧
        ∀ first others, resultsOf done = first :: others →
          (workOff done).value = joinedFrom first (joinsOf done) others) := by
  refine ⟨?_, fun events => ⟨fun done _ => workOff_spent done, fun hnone => ?_, fun hlinked => ?_⟩⟩
  · rw [evaluate_eq (reads_readLevel limit c _), Reading.holds, applySteps_eq_foldl]; rfl
  · have hsettled := (linked_of_resultsOf_eq_nil hnone).settled
    rw [hnone] at hsettled
    generalize workOff events = p at hsettled
    cases hsettled; rfl
  · rintro done ⟨rest, rfl⟩
    have hsettled := hlinked.of_append.settled
    refine ⟨hsettled.length_results_le, fun first others hresults => ?_⟩
    rw [hresults] at hsettled
    exact hsettled.value_eq

/-- `and or true or false and`: a join too early, one too many and one too late. -/
example : (workOff [.join .and, .join .or, .result true, .join .or, .result false, .join .and]).value =
    (true && false) := by
  decide

end DocStore.Query
