import DocStore.Document
import DocStore.Proofs.Query.Progress

/-!
# What an answer depends on

An evaluation reads and computes at once, but no value that it computes has a say in which way it takes through the
tokens: its turns are those of the reading without a record (`turn_congr`). What it is worth depends on the values at
the paths that its conditions name, and each of these paths is the text of a token (`Reads.paths`). So two records that
agree there get the same answer (`evaluate_depends_on_named_fields`).
-/

namespace DocStore.Query

/-! ## Paths of an outline -/

mutual
def Step.paths : Step → List String
  | .join _ => []
  | .test _ condition => condition.toList.map Condition.path
  | .group _ _ steps => stepsPaths steps

def stepsPaths : List Step → List String
  | [] => []
  | step :: steps => step.paths ++ stepsPaths steps
end

section
variable {r₁ r₂ : Record}

theorem Condition.holds_congr {condition : Condition} (h : resolve r₁ condition.path = resolve r₂ condition.path) :
    condition.holds r₁ = condition.holds r₂ := by
  simp only [Condition.holds, holdsAt, h]

mutual
theorem Step.apply_congr (p : Pending) (step : Step)
    (h : ∀ path ∈ step.paths, resolve r₁ path = resolve r₂ path) : step.apply r₁ p = step.apply r₂ p := by
  match step with
  | .join j => rfl
  | .test negated none => rfl
  | .test negated (some condition) =>
    have hholds : condition.holds r₁ = condition.holds r₂ :=
      Condition.holds_congr (h condition.path (by simp [Step.paths]))
    simp only [Step.apply, Option.any_some, hholds]
  | .group negated spoiled steps =>
    rw [Step.apply, Step.apply, applySteps_congr {} steps h]

theorem applySteps_congr (p : Pending) (steps : List Step)
    (h : ∀ path ∈ stepsPaths steps, resolve r₁ path = resolve r₂ path) :
    applySteps r₁ p steps = applySteps r₂ p steps := by
  match steps with
  | [] => rfl
  | step :: steps =>
    have hstep : ∀ path ∈ step.paths, resolve r₁ path = resolve r₂ path := by
      intro path hpath
      apply h
      rw [stepsPaths]
      exact List.mem_append_left _ hpath
    have hsteps : ∀ path ∈ stepsPaths steps, resolve r₁ path = resolve r₂ path := by
      intro path hpath
      apply h
      rw [stepsPaths]
      exact List.mem_append_right _ hpath
    rw [applySteps, applySteps, Step.apply_congr p step hstep, applySteps_congr _ steps hsteps]
end

theorem Reading.holds_congr {r : Reading} (h : ∀ path ∈ stepsPaths r.steps, resolve r₁ path = resolve r₂ path) :
    r.holds r₁ = r.holds r₂ := by
  rw [Reading.holds, Reading.holds, applySteps_congr {} r.steps h]

end

/-! ## Paths are texts of tokens -/

/-- The path is the text of one of the tokens. -/
def NamedBy (ts : List Token) (path : String) : Prop :=
  ∃ t ∈ ts, path = String.ofList t.text

theorem NamedBy.of_suffix {ts us : List Token} {path : String} (h : NamedBy us path) (hs : us <:+ ts) :
    NamedBy ts path := by
  obtain ⟨t, ht, hpath⟩ := h
  exact ⟨t, hs.subset ht, hpath⟩

theorem namedBy_of_readCondition? {ts after : List Token} {condition : Condition}
    (h : readCondition? ts = some (condition, after)) : NamedBy ts condition.path := by
  match ts, h with
  | field :: _ :: _ :: _, h =>
    cases h
    exact ⟨field, List.mem_cons_self, rfl⟩

theorem namedBy_of_pass {ts rest : List Token} {step : Step} (h : move ts = .pass step rest) :
    ∀ path ∈ step.paths, NamedBy ts path := by
  intro path hpath
  cases front_of_move h with
  | join => simp [Step.paths] at hpath
  | lacking => simp [Step.paths] at hpath
  | test _ _ hr =>
    obtain rfl : path = _ := by simpa [Step.paths] using hpath
    exact namedBy_of_readCondition? hr
  | notTest _ hr =>
    obtain rfl : path = _ := by simpa [Step.paths] using hpath
    exact (namedBy_of_readCondition? hr).of_suffix (List.suffix_cons _ _)

theorem Reads.paths {limit : Nat} {c : Cursor} {ts : List Token} {r : Reading} (h : Reads limit c ts r) :
    ∀ path ∈ stepsPaths r.steps, NamedBy ts path := by
  induction h with
  | stop | spoil | full | exhaust =>
    intro path hpath
    simp [stepsPaths] at hpath
  | pass hm _ ih =>
    intro path hpath
    rcases List.mem_append.mp hpath with hstep | hlater
    · exact namedBy_of_pass hm path hstep
    · exact (ih path hlater).of_suffix (suffix_of_pass hm)
  | @group c ts negated inside g r hm _ hg _ _ ihg ih =>
    intro path hpath
    rcases List.mem_append.mp hpath with hinside | hlater
    · exact (ihg path hinside).of_suffix (suffix_of_enter hm)
    · have hrest : skipClosing g.rest <:+ ts :=
        (skipClosing_suffix g.rest).trans (hg.suffix.trans (suffix_of_enter hm))
      exact (ih path hlater).of_suffix hrest

/-! ## Two records -/

section
variable {limit : Nat} {tokens : List Token} {c : Cursor} {start : Nat}

theorem groupTurn_congr (r₁ r₂ : Record) : groupTurn limit tokens r₁ c start = groupTurn limit tokens r₂ c start := by
  have hread := reads_readLevel limit c.opened (tokens.drop start)
  rw [groupTurn, groupTurn, evaluate_eq hread, evaluate_eq hread]

theorem turn_congr (r₁ r₂ : Record) (c : Cursor) (i : Nat) :
    turn limit tokens r₁ c i = turn limit tokens r₂ c i := by
  rw [turn_eq, turn_eq]
  cases move (tokens.drop i) with
  | enter => exact groupTurn_congr r₁ r₂
  | _ => rfl

theorem Visited.congr {r₁ : Record} {c' : Cursor} {i : Nat} (h : Visited limit tokens r₁ c start c' i) (r₂ : Record) :
    Visited limit tokens r₂ c start c' i := by
  induction h with
  | start => exact .start
  | next _ hturn ih => exact .next ih (by rw [← hturn, turn_congr r₁ r₂])
  | inside _ hgroup hlt ih => exact .inside ih hgroup hlt

/-- An evaluation takes the same turns on every record, the turns of its groups among them, and so ends at the same
position with the same cursor. Its value is the same on any two records in which each token's text, taken as a path,
leads to the same value or to none. -/
theorem evaluate_depends_on_named_fields (limit : Nat) (tokens : List Token) (c : Cursor) (start : Nat)
    (r₁ r₂ : Record) :
    (evaluate limit tokens r₁ c start).1.2 = (evaluate limit tokens r₂ c start).1.2 ∧
    (evaluate limit tokens r₁ c start).2 = (evaluate limit tokens r₂ c start).2 ∧
    (∀ c' i, Visited limit tokens r₁ c start c' i ↔ Visited limit tokens r₂ c start c' i) ∧
    ((∀ t ∈ tokens, resolve r₁ (String.ofList t.text) = resolve r₂ (String.ofList t.text)) →
      (evaluate limit tokens r₁ c start).1.1 = (evaluate limit tokens r₂ c start).1.1) := by
  have hread := reads_readLevel limit c (tokens.drop start)
  rw [evaluate_eq hread, evaluate_eq hread]
  refine ⟨rfl, rfl, fun c' i => ⟨fun h => h.congr r₂, fun h => h.congr r₁⟩, ?_⟩
  intro hagree
  apply Reading.holds_congr
  intro path hpath
  obtain ⟨t, ht, rfl⟩ := hread.paths path hpath
  exact hagree t (List.mem_of_mem_drop ht)

end

/-- `not ( a.b > 2 and ) or c`, whose last condition is not complete. -/
def negatedGroup : List Token :=
  [.ofText ['n', 'o', 't'], .ofText ['('], .ofText ['a', '.', 'b'], .ofText ['>'], .ofText ['2'], .ofText ['a', 'n', 'd'],
    .ofText [')'], .ofText ['o', 'r'], .ofText ['c']]

/-- A record and the same record as a document of some id. -/
theorem evaluate_depends_on_named_fields_injected :
    let record : Record := [("a", .object [("b", .int 1)])]
    (∀ t ∈ negatedGroup, resolve record (String.ofList t.text) =
      resolve (Document.mk "7" record).toRecord (String.ofList t.text)) ∧
    (evaluate 64 negatedGroup record {} 0).1.1 = (evaluate 64 negatedGroup (Document.mk "7" record).toRecord {} 0).1.1 := by
  intro record
  have hagree : ∀ t ∈ negatedGroup, resolve record (String.ofList t.text) =
      resolve (Document.mk "7" record).toRecord (String.ofList t.text) := by
    intro t ht
    simp only [negatedGroup, List.mem_cons, List.not_mem_nil, or_false] at ht
    rcases ht with rfl | rfl | rfl | rfl | rfl | rfl | rfl | rfl | rfl <;> rfl
  exact ⟨hagree, (evaluate_depends_on_named_fields 64 negatedGroup {} 0 record _).2.2.2 hagree⟩

end DocStore.Query
