import DocStore.Proofs.Query.Rendering
import DocStore.Proofs.Query.Staging
import DocStore.Query

/-!
# Queries of one condition

A path, an operator and tokens for a value make a query that compares what the path leads to with the literal that the
tokens denote, whatever blanks stand between them (`accepts_condition`).
-/

namespace DocStore.Query

open Text (isBlank)

/-! ## Paths that a query can name -/

/-- Names of letters, digits and underscores with dots in between. None of them is a keyword, and no `contains` is
found in the path. -/
structure Nameable (path : String) : Prop where
  ne_empty : path ≠ ""
  letters : ∀ c ∈ path.toList, isWordLetter c = true ∨ c = '.'
  no_contains : ¬ Operator.contains.symbol <:+: path.toList.map Char.toLower
  no_keyword : ∀ name ∈ names path, ∀ k ∈ Keyword.all, name.toList.map Char.toLower ≠ k.word

instance (path : String) : Decidable (Nameable path) :=
  decidable_of_iff
    (path ≠ "" ∧ (∀ c ∈ path.toList, isWordLetter c = true ∨ c = '.') ∧
      (¬ Operator.contains.symbol <:+: path.toList.map Char.toLower) ∧
      ∀ name ∈ names path, ∀ k ∈ Keyword.all, name.toList.map Char.toLower ≠ k.word)
    ⟨fun ⟨hne, hletters, hcontains, hkeyword⟩ => ⟨hne, hletters, hcontains, hkeyword⟩,
      fun ⟨hne, hletters, hcontains, hkeyword⟩ => ⟨hne, hletters, hcontains, hkeyword⟩⟩

theorem splitOnP_congr {p q : Char → Bool} {cs : List Char} (h : ∀ c ∈ cs, p c = q c) :
    cs.splitOnP p = cs.splitOnP q := by
  induction cs with
  | nil => rfl
  | cons c cs ih =>
    obtain ⟨hfirst, hothers⟩ := List.forall_mem_cons.mp h
    rw [List.splitOnP_cons_eq_if_modifyHead, List.splitOnP_cons_eq_if_modifyHead, hfirst, ih hothers]

theorem Nameable.isName {path : String} (h : Nameable path) : IsName path.toList where
  ne_nil hnil := h.ne_empty (String.toList_eq_nil_iff.mp hnil)
  letters c hc := by
    rcases h.letters c hc with hletter | rfl
    · simp [isNameLetter, hletter]
    · decide
  no_contains := h.no_contains
  no_keyword run hrun := by
    have hdots : path.toList.splitOnP (fun c => !isWordLetter c) = path.toList.splitOn '.' := by
      refine splitOnP_congr fun c hc => ?_
      rcases h.letters c hc with hletter | rfl
      · have hdot : c ≠ '.' := by
          rintro rfl
          revert hletter; decide
        simp [hletter, hdot]
      · decide
    rw [hdots] at hrun
    simpa using h.no_keyword (String.ofList run) (List.mem_map_of_mem hrun)

/-! ## The condition is read -/

theorem ofText?_symbol (op : Operator) : Operator.ofText? op.symbol = some op := by
  cases op <;> decide

section
variable {field : List Char} {op : Operator} {values : List Token}

theorem readCondition?_values (hne : values ≠ []) (hvalues : ∀ t ∈ values, t.isBoundary = false) :
    readCondition? (⟨.ident, field⟩ :: ⟨.operator op, op.symbol⟩ :: values) =
      some (⟨String.ofList field, some op, coerceChars (joinTexts values)⟩, []) := by
  obtain ⟨value, rest, rfl⟩ := List.exists_cons_of_ne_nil hne
  have htake : (value :: rest).takeWhile (fun t => !t.isBoundary) = value :: rest :=
    List.takeWhile_eq_self_iff.mpr fun t ht => by simp [hvalues t ht]
  have hdrop : (value :: rest).dropWhile (fun t => !t.isBoundary) = [] :=
    List.dropWhile_eq_nil_iff.mpr fun t ht => by simp [hvalues t ht]
  simp only [readCondition?, htake, hdrop, ofText?_symbol]

theorem run_condition (hne : values ≠ []) (hvalues : ∀ t ∈ values, t.isBoundary = false) (limit : Nat)
    (record : Record) :
    (run limit (⟨.ident, field⟩ :: ⟨.operator op, op.symbol⟩ :: values) record).1 =
      holdsAt record (String.ofList field) op (coerceChars (joinTexts values)) := by
  have hmove : move (⟨.ident, field⟩ :: ⟨.operator op, op.symbol⟩ :: values) =
      .pass (.test false (some ⟨String.ofList field, some op, coerceChars (joinTexts values)⟩)) [] := by
    simp only [move, readCondition?_values hne hvalues]
  rw [run_eq (.pass hmove (.stop rfl))]
  simp [Reading.holds, applySteps, Step.apply, Pending.push, Pending.reduce, Pending.reduceWith, Pending.value,
    Condition.holds]

end

/-- A query of one condition holds if the value at the path satisfies the operator with the literal. -/
theorem accepts_condition {path : String} (hpath : Nameable path) (op : Operator) {values : List (Token × List Char)}
    (hspaced : Spaced values) (hne : values ≠ []) (hvalues : ∀ e ∈ values, e.1.isBoundary = false) (maxDepth : Nat)
    (record : Record) :
    (ofExpression maxDepth
      (path ++ " " ++ String.ofList op.symbol ++ " " ++ String.ofList (written values))).accepts record =
      holdsAt record path op (coerceChars (joinTexts (values.map Prod.fst))) := by
  have hblank : ∀ c ∈ [' '], isBlank c = true := by decide
  have hlegible : Token.Legible ⟨.ident, path.toList⟩ := .name hpath.isName
  have hsign : Token.Legible ⟨.operator op, op.symbol⟩ := .operator op (by cases op <;> decide)
  have hwhole : Spaced ((⟨.ident, path.toList⟩, [' ']) :: (⟨.operator op, op.symbol⟩, [' ']) :: values) :=
    ⟨List.forall_mem_cons.mpr ⟨hlegible, List.forall_mem_cons.mpr ⟨hsign, hspaced.legible⟩⟩,
      List.forall_mem_cons.mpr ⟨hblank, List.forall_mem_cons.mpr ⟨hblank, hspaced.blank⟩⟩,
      List.isChain_cons.mpr ⟨fun _ _ => .inl (List.cons_ne_nil _ _),
        List.isChain_cons.mpr ⟨fun _ _ => .inl (List.cons_ne_nil _ _), hspaced.apart⟩⟩⟩
  have htext : path ++ " " ++ String.ofList op.symbol ++ " " ++ String.ofList (written values) =
      String.ofList ([] ++ written ((⟨.ident, path.toList⟩, [' ']) :: (⟨.operator op, op.symbol⟩, [' ']) :: values)) := by
    apply String.toList_injective
    simp [written]
  have hlead : ∀ c ∈ ([] : List Char), isBlank c = true := by simp
  have htokens := tokenize_rendering hlead hwhole
  rw [accepts, ofExpression, htext, htokens, List.map_cons, List.map_cons,
    run_condition (by simpa using hne) (by simpa using hvalues), String.ofList_toList]

theorem accepts_condition_one {path : String} (hpath : Nameable path) (op : Operator) {t : Token} (ht : t.Legible)
    (hvalue : t.isBoundary = false) (maxDepth : Nat) (record : Record) :
    (ofExpression maxDepth (path ++ " " ++ String.ofList op.symbol ++ " " ++ String.ofList t.text)).accepts record =
      holdsAt record path op (coerceChars t.text) := by
  have hspaced : Spaced [(t, [])] := ⟨by simpa using ht, by simp, List.isChain_singleton _⟩
  have hwritten : written [(t, [])] = t.text := by simp [written]
  have haccepts := accepts_condition hpath op hspaced (List.cons_ne_nil _ _) (by simpa using hvalue) maxDepth record
  rwa [hwritten] at haccepts

/-! ## Equality with what is stored -/

theorem satisfies_eq_same {v literal : Value} (h : ∀ t, literal ≠ .time t) : satisfies .eq v literal = v.same literal := by
  have hdate : byDate? .eq v literal = none := by
    cases literal with
    | time t => exact absurd rfl (h t)
    | _ => rfl
  rw [satisfies, hdate]
  rfl

theorem holdsAt_eq_iff {literal : Value} (h : ∀ v, satisfies .eq v literal = true ↔ v = literal) {record : Record}
    {path : String} : holdsAt record path .eq literal = true ↔ resolve record path = some literal := by
  simp [holdsAt, Option.any_eq_true, h]

theorem holdsAt_int_iff {record : Record} {path : String} {n : Int64} :
    holdsAt record path .eq (.int n) = true ↔ resolve record path = some (.int n) := by
  refine holdsAt_eq_iff fun v => ?_
  rw [satisfies_eq_same (by simp)]
  cases v <;> simp [Value.same]

theorem holdsAt_str_iff {record : Record} {path s : String} :
    holdsAt record path .eq (.str s) = true ↔ resolve record path = some (.str s) := by
  refine holdsAt_eq_iff fun v => ?_
  rw [satisfies_eq_same (by simp)]
  cases v <;> simp [Value.same]

end DocStore.Query
