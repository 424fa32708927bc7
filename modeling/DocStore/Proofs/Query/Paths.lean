import DocStore.Proofs.Query.Literals
import DocStore.Proofs.Query.Respacing
import DocStore.Proofs.Query.Single

/-!
# Paths in a query

A path of names with dots between them is one token, unless it has `contains` in it: no name is a keyword, so none is
found, but `contains` is found inside other words and cuts the path there (`contains_mem_tokenizeChars`).
-/

namespace DocStore.Query

open Text (isBlank)

/-! ## Names with dots between them -/

def dotted (names : List String) : String :=
  ".".intercalate names

structure IsPath (names : List String) : Prop where
  ne_nil : names ≠ []
  letters : ∀ name ∈ names, name ≠ "" ∧ ∀ c ∈ name.toList, isWordLetter c = true
  no_keyword : ∀ name ∈ names, ∀ k ∈ Keyword.all, name.toList.map Char.toLower ≠ k.word

section
variable {words : List (List Char)}

theorem forall_mem_intercalate_dot {P : Char → Prop} (hdot : P '.') (h : ∀ w ∈ words, ∀ c ∈ w, P c) :
    ∀ c ∈ ['.'].intercalate words, P c := by
  induction words with
  | nil => simp
  | cons w words ih =>
    obtain ⟨hfirst, hothers⟩ := List.forall_mem_cons.mp h
    cases words with
    | nil => simpa using hfirst
    | cons w' words =>
      rw [List.intercalate_cons_cons, List.append_assoc, List.forall_mem_append, List.singleton_append,
        List.forall_mem_cons]
      exact ⟨hfirst, hdot, ih hothers⟩

theorem splitOnP_intercalate_dot {p : Char → Bool} (hne : words ≠ []) (hdot : p '.' = true)
    (h : ∀ w ∈ words, ∀ c ∈ w, p c = false) : (['.'].intercalate words).splitOnP p = words := by
  induction words with
  | nil => exact absurd rfl hne
  | cons w words ih =>
    obtain ⟨hfirst, hothers⟩ := List.forall_mem_cons.mp h
    cases words with
    | nil => rw [List.intercalate_singleton, List.splitOnP_eq_singleton hfirst]
    | cons w' words =>
      rw [List.intercalate_cons_cons, List.append_assoc, List.singleton_append,
        List.splitOnP_append_cons_of_forall_mem hfirst '.' hdot, ih (List.cons_ne_nil _ _) hothers]

end

section
variable {names : List String}

theorem toList_dotted (names : List String) : (dotted names).toList = ['.'].intercalate (names.map String.toList) :=
  String.toList_intercalate

theorem IsPath.isNameLetter (h : IsPath names) : ∀ c ∈ (dotted names).toList, isNameLetter c = true := by
  rw [toList_dotted]
  apply forall_mem_intercalate_dot
  · decide
  · intro w hw c hc
    obtain ⟨name, hname, rfl⟩ := List.mem_map.mp hw
    simp [Query.isNameLetter, (h.letters name hname).2 c hc]

theorem IsPath.splitOnP (h : IsPath names) :
    (dotted names).toList.splitOnP (fun c => !isWordLetter c) = names.map String.toList := by
  rw [toList_dotted]
  apply splitOnP_intercalate_dot
  · simpa using h.ne_nil
  · decide
  · intro w hw c hc
    obtain ⟨name, hname, rfl⟩ := List.mem_map.mp hw
    simp [(h.letters name hname).2 c hc]

theorem IsPath.keyword (h : IsPath names) : ∀ run ∈ (dotted names).toList.splitOnP fun c => !isWordLetter c,
    ∀ k ∈ Keyword.all, run.map Char.toLower ≠ k.word := by
  intro run hrun
  rw [h.splitOnP] at hrun
  obtain ⟨name, hname, rfl⟩ := List.mem_map.mp hrun
  exact h.no_keyword name hname

theorem IsPath.toList_ne_nil (h : IsPath names) : (dotted names).toList ≠ [] := by
  intro hnil
  have hsplit := h.splitOnP
  rw [hnil] at hsplit
  obtain ⟨name, names, rfl⟩ := List.exists_cons_of_ne_nil h.ne_nil
  obtain ⟨hname, -⟩ := h.letters name List.mem_cons_self
  simp only [List.splitOnP_nil, List.map_cons, List.cons.injEq] at hsplit
  exact hname (String.toList_eq_nil_iff.mp hsplit.1.symm)

theorem IsPath.isName (h : IsPath names) (hfree : ¬ Operator.contains.symbol <:+: (dotted names).toList.map Char.toLower) :
    IsName (dotted names).toList :=
  ⟨h.toList_ne_nil, h.isNameLetter, hfree, h.keyword⟩

end

/-! ## A name is one token -/

theorem tokenizeChars_name {cs : List Char} (hcs : IsName cs) : tokenizeChars cs = [⟨.ident, cs⟩] := by
  have hlegible : Token.Legible ⟨.ident, cs⟩ := .name hcs
  have hspaced : spaceOut false ' ' 0 (cs ++ []) = cs ++ [] := by
    rw [spaceOut_name hcs (by simp), spaceOut_nil]
  have hcut : cut (cs ++ []) = [cs] := hlegible.solid.cut_append (by simp)
  rw [List.append_nil] at hspaced hcut
  rw [tokenizeChars_eq, hspaced, hcut, List.map_singleton, hlegible.ofText_text]

/-! ## A path with `contains` in it -/

/-- The first place at which a word is found. -/
theorem exists_first {word cs : List Char} (hne : word ≠ []) (h : word <:+: cs.map foldCase) :
    ∃ x y, cs = x ++ y ∧ beginsWith word y = true ∧
      ∀ x' c z, x = x' ++ c :: z → beginsWith word (c :: (z ++ y)) = false := by
  induction cs with
  | nil => exact absurd (List.infix_nil.mp h) hne
  | cons c cs ih =>
    by_cases hfirst : beginsWith word (c :: cs) = true
    · exact ⟨[], c :: cs, rfl, hfirst, by simp⟩
    · have hlater : word <:+: cs.map foldCase := by
        rcases List.infix_cons_iff.mp h with hprefix | hlater
        · refine absurd ?_ hfirst
          have htake := List.prefix_iff_eq_take.mp hprefix
          simpa [beginsWith, List.map_take] using htake.symm
        · exact hlater
      obtain ⟨x, y, rfl, hbegins, hbefore⟩ := ih hlater
      refine ⟨c :: x, y, rfl, hbegins, ?_⟩
      intro x' d z hsplit
      cases x' with
      | nil =>
        cases hsplit
        exact Bool.eq_false_iff.mpr hfirst
      | cons d' x' =>
        cases hsplit
        exact hbefore x' d z rfl

/-- Of all lexemes only `contains` can be found at a letter of a path. -/
theorem lexemeLength_letter {before c : Char} {x y : List Char} (hletters : ∀ d ∈ x ++ c :: y, isNameLetter d = true)
    (hkeyword : ∀ run ∈ (x ++ c :: y).splitOnP fun c => !isWordLetter c, ∀ k ∈ Keyword.all, run.map Char.toLower ≠ k.word)
    (hcontains : beginsWith Operator.contains.symbol (c :: y) = false) : lexemeLength (lastOr x before) (c :: y) = 0 := by
  apply lexemeLength_eq_zero
  · exact keywordFirst_name hletters hkeyword
  · intro sign hsign
    rw [← Bool.not_eq_true]
    intro hfirst
    obtain rfl := eq_contains_of_beginsWith (hletters c (by simp)) hsign hfirst
    rw [hcontains] at hfirst
    cases hfirst

theorem contains_mem_tokenizeChars {cs : List Char} (hletters : ∀ c ∈ cs, isNameLetter c = true)
    (hkeyword : ∀ run ∈ cs.splitOnP fun c => !isWordLetter c, ∀ k ∈ Keyword.all, run.map Char.toLower ≠ k.word)
    (h : Operator.contains.symbol <:+: cs.map Char.toLower) :
    ∃ t ∈ tokenizeChars cs, t.kind = .operator .contains := by
  rw [map_toLower_of_name hletters] at h
  obtain ⟨x, y, rfl, hbegins, hbefore⟩ := exists_first (by decide) h
  obtain ⟨run, rest, rfl, hrun⟩ := exists_of_beginsWith hbegins
  have hrunLetters : ∀ c ∈ run, isNameLetter c = true := fun c hc => hletters c (by simp [hc])
  have hlegible : Token.Legible ⟨.operator .contains, run⟩ := .operator .contains (by rw [map_toLower_of_name hrunLetters, hrun])
  have hquote : '\'' ∉ x ++ (run ++ rest) := quote_not_mem hletters
  have hxquote : '\'' ∉ x := fun hmem => hquote (List.mem_append_left _ hmem)
  have hrunquote : '\'' ∉ run := fun hmem => hquote (by simp [hmem])
  have hplain : ∀ x' c z, x = x' ++ c :: z → lexemeLength (lastOr x' ' ') (c :: (z ++ (run ++ rest))) = 0 := by
    intro x' c z hsplit
    have hwhole : x ++ (run ++ rest) = x' ++ (c :: (z ++ (run ++ rest))) := by simp [hsplit]
    rw [hwhole] at hletters hkeyword
    exact lexemeLength_letter hletters hkeyword (hbefore x' c z hsplit)
  have hlexeme : lexemeLength (lastOr x ' ') (run ++ rest) = run.length :=
    lexemeLength_sign (symbol_mem_signs .contains) hrun fun h => absurd h (by decide)
  have hspace : isBlank ' ' = true := by decide
  refine ⟨⟨.operator .contains, run⟩, ?_, rfl⟩
  rw [tokenizeChars_eq, spaceOut_text hxquote hplain, spaceOut_lexeme hlegible.text_ne_nil hrunquote hlexeme,
    cut_append_blank (inside_of_not_mem hxquote false) hspace, hlegible.solid.cut_append (by simp [hspace]),
    List.map_append, List.map_cons, hlegible.ofText_text]
  exact List.mem_append_right _ List.mem_cons_self

/-! ## Looking up a path -/

theorem run_equals {limit : Nat} {field literal : List Char} (record : Record) :
    (run limit [⟨.ident, field⟩, ⟨.operator .eq, Operator.eq.symbol⟩, ⟨.ident, literal⟩] record).1 =
      holdsAt record (String.ofList field) .eq (coerceChars literal) := by
  have hvalues : ∀ t ∈ [(⟨.ident, literal⟩ : Token)], t.isBoundary = false := fun t ht => by
    obtain rfl := List.mem_singleton.mp ht
    rfl
  exact run_condition (List.cons_ne_nil _ _) hvalues limit record

theorem tokenize_equals {field literal : String} (hfield : IsName field.toList) (hliteral : IsName literal.toList) :
    tokenize (field ++ " == " ++ literal) =
      [⟨.ident, field.toList⟩, ⟨.operator .eq, Operator.eq.symbol⟩, ⟨.ident, literal.toList⟩] := by
  have hblank : ∀ c ∈ [' '], isBlank c = true := by decide
  have hsign : tokenizeChars Operator.eq.symbol = [⟨.operator .eq, Operator.eq.symbol⟩] := by decide
  have hchars : (field ++ " == " ++ literal).toList =
      field.toList ++ ([' '] ++ (Operator.eq.symbol ++ ([' '] ++ literal.toList))) := by
    simp [Operator.symbol]
  rw [tokenize, hchars, tokenizeChars_append_blanks (Token.Legible.name hfield).solid.closed hblank (List.cons_ne_nil _ _),
    tokenizeChars_append_blanks rfl hblank (List.cons_ne_nil _ _), tokenizeChars_name hfield, hsign,
    tokenizeChars_name hliteral]
  rfl

/-- A path is one token unless it has `contains` in it, and then an integer is compared with what the path leads to. -/
theorem tokenize_path_iff {names : List String} (h : IsPath names) :
    (tokenize (dotted names) = [⟨.ident, (dotted names).toList⟩] ↔
      ¬ Operator.contains.symbol <:+: (dotted names).toList.map Char.toLower) ∧
    (¬ Operator.contains.symbol <:+: (dotted names).toList.map Char.toLower →
      ∀ (literal : String) (n : Int64), Decimal.readInt? literal.toList = some n → ∀ maxDepth record,
        (ofExpression maxDepth (dotted names ++ " == " ++ literal)).accepts record = true ↔
          resolve record (dotted names) = some (.int n)) := by
  constructor
  · constructor
    · intro htokens hcontains
      obtain ⟨t, ht, hkind⟩ := contains_mem_tokenizeChars h.isNameLetter h.keyword hcontains
      rw [← tokenize, htokens, List.mem_singleton] at ht
      rw [ht] at hkind
      cases hkind
    · intro hfree
      exact tokenizeChars_name (h.isName hfree)
  · intro hfree literal n hliteral maxDepth record
    have htokens := tokenize_equals (h.isName hfree) (isName_of_readInt? hliteral)
    rw [accepts, ofExpression, htokens, run_equals, coerceChars_of_readInt? hliteral, String.ofList_toList]
    exact holdsAt_int_iff

/-- A name may begin with a keyword, but not hold `contains` anywhere. -/
theorem tokenize_path_iff_nuts :
    (∀ maxDepth record, (ofExpression maxDepth "andes.or_9 == -07").accepts record = true ↔
      resolve record "andes.or_9" = some (.int (-7))) ∧
    tokenize "allergens.contains_nuts" ≠ [⟨.ident, "allergens.contains_nuts".toList⟩] := by
  have hpath : IsPath ["andes", "or_9"] := ⟨by decide, by decide, by decide⟩
  have hnuts : IsPath ["allergens", "contains_nuts"] := ⟨by decide, by decide, by decide⟩
  constructor
  · intro maxDepth record
    exact (tokenize_path_iff hpath).2 (by decide) "-07" (-7) (by decide) maxDepth record
  · intro htokens
    exact (tokenize_path_iff hnuts).1.mp htokens (by decide)

end DocStore.Query
