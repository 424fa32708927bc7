import DocStore.Proofs.Query.Spacing
import Mathlib.Data.List.Infix

/-!
# Names

A name that is not a keyword can still hold one, between dots or signs, and `contains` is found inside any name. In a
text with neither the first pass finds no lexeme (`lexemeLength_name`) and leaves it as it is.
-/

namespace DocStore.Query

open Text (isBlank isWord)

def isWordLetter (c : Char) : Bool :=
  c.isAlphanum || c = '_'

def isNameLetter (c : Char) : Bool :=
  isWordLetter c || c ∈ ['.', '-', '+', ':']

/-- No `contains` is in the text, and no run of word letters between other letters is a keyword. -/
structure IsName (cs : List Char) : Prop where
  ne_nil : cs ≠ []
  letters : ∀ c ∈ cs, isNameLetter c = true
  no_contains : ¬ Operator.contains.symbol <:+: cs.map Char.toLower
  no_keyword : ∀ run ∈ cs.splitOnP fun c => !isWordLetter c, ∀ k ∈ Keyword.all, run.map Char.toLower ≠ k.word

instance (cs : List Char) : Decidable (IsName cs) :=
  decidable_of_iff
    (cs ≠ [] ∧ (∀ c ∈ cs, isNameLetter c = true) ∧ ¬ Operator.contains.symbol <:+: cs.map Char.toLower ∧
      ∀ run ∈ cs.splitOnP fun c => !isWordLetter c, ∀ k ∈ Keyword.all, run.map Char.toLower ≠ k.word)
    ⟨fun ⟨hne, hletters, hcontains, hkeyword⟩ => ⟨hne, hletters, hcontains, hkeyword⟩,
      fun ⟨hne, hletters, hcontains, hkeyword⟩ => ⟨hne, hletters, hcontains, hkeyword⟩⟩

section
variable {before : Char} {cs rest : List Char}

theorem mem_splitOnP {p : Char → Bool} {x run y : List Char} (hx : ∀ c ∈ x.getLast?, p c = true)
    (hrun : ∀ c ∈ run, p c = false) (hy : ∀ c ∈ y.head?, p c = true) : run ∈ (x ++ (run ++ y)).splitOnP p := by
  have hfirst : run ∈ (run ++ y).splitOnP p := by
    cases y with
    | nil =>
      rw [List.append_nil, List.splitOnP_eq_singleton hrun]
      exact List.mem_singleton_self run
    | cons c y =>
      rw [List.splitOnP_append_cons_of_forall_mem hrun c (hy c rfl)]
      exact List.mem_cons_self
  rcases List.eq_nil_or_concat x with rfl | ⟨x, c, rfl⟩
  · exact hfirst
  · have hc : p c = true := hx c (by simp)
    rw [List.concat_eq_append, List.append_assoc, List.singleton_append, List.splitOnP_append_cons _ _ hc]
    exact List.mem_append_right _ hfirst

theorem mem_of_mem_splitOnP {p : Char → Bool} {cs run : List Char} (h : run ∈ cs.splitOnP p) : ∀ c ∈ run, c ∈ cs := by
  induction cs generalizing run with
  | nil =>
    rw [List.splitOnP_nil, List.mem_singleton] at h
    simp [h]
  | cons d cs ih =>
    rw [List.splitOnP_cons_eq_if_modifyHead] at h
    intro c hc
    split at h
    · rcases List.mem_cons.mp h with rfl | h
      · cases hc
      · exact List.mem_cons_of_mem d (ih h c hc)
    · obtain ⟨w, ws, hsplit⟩ := List.exists_cons_of_ne_nil (List.splitOnP_ne_nil p cs)
      rw [hsplit] at ih h
      rcases List.mem_cons.mp h with rfl | h
      · rcases List.mem_cons.mp hc with rfl | hc
        · exact List.mem_cons_self
        · exact List.mem_cons_of_mem d (ih List.mem_cons_self c hc)
      · exact List.mem_cons_of_mem d (ih (List.mem_cons_of_mem w h) c hc)

theorem ascii_of_isNameLetter {c : Char} (h : isNameLetter c = true) : c.toNat < 128 := by
  simp only [isNameLetter, isWordLetter, Bool.or_eq_true, decide_eq_true_eq] at h
  rcases h with (h | rfl) | h
  · exact ascii_of_isAlphanum h
  · decide
  · revert c; decide

theorem quote_not_mem (h : ∀ c ∈ cs, isNameLetter c = true) : '\'' ∉ cs :=
  fun hquote => absurd (h _ hquote) (by decide)

theorem isWord_eq_isWordLetter {c : Char} (h : isNameLetter c = true) : isWord c = isWordLetter c :=
  if_pos (ascii_of_isNameLetter h)

theorem foldCase_of_isNameLetter {c : Char} (h : isNameLetter c = true) : foldCase c = c.toLower :=
  of_ascii (P := fun c => foldCase c = c.toLower) (by decide +kernel) (ascii_of_isNameLetter h)

theorem map_toLower_of_name {run : List Char} (h : ∀ c ∈ run, isNameLetter c = true) :
    run.map Char.toLower = run.map foldCase :=
  List.map_congr_left fun c hc => (foldCase_of_isNameLetter (h c hc)).symm

theorem keywordFirst_name {x y : List Char} (hletters : ∀ c ∈ x ++ y, isNameLetter c = true)
    (hkeyword : ∀ run ∈ (x ++ y).splitOnP fun c => !isWordLetter c, ∀ k ∈ Keyword.all, run.map Char.toLower ≠ k.word)
    (k : Keyword) : keywordFirst (lastOr x before) y k.word = false := by
  rw [← Bool.not_eq_true]
  intro hfirst
  simp only [keywordFirst, Bool.and_eq_true, Bool.not_eq_true'] at hfirst
  obtain ⟨⟨hleft, hword⟩, hright⟩ := hfirst
  obtain ⟨run, y, rfl, hrun⟩ := exists_of_beginsWith hword
  have hletter : ∀ c ∈ x ++ (run ++ y), isWord c = isWordLetter c := fun c hc => isWord_eq_isWordLetter (hletters c hc)
  -- the keyword would be a whole run of word letters
  refine hkeyword run (mem_splitOnP ?_ ?_ ?_) k (by cases k <;> decide) ?_
  · intro c hc
    rw [← hletter c (by simp [List.mem_of_getLast? hc])]
    simpa [lastOr, Option.mem_def.mp hc] using hleft
  · intro c hc
    have hlower : foldCase c ∈ k.word := hrun ▸ List.mem_map_of_mem hc
    rw [← hletter c (by simp [hc]), isWord_of_foldCase (isLower_of_mem_word hlower)]
    rfl
  · intro c hc
    rw [← hletter c (by simp [List.mem_of_head? hc])]
    rw [List.drop_left' (by rw [← hrun, List.length_map])] at hright
    cases y with
    | nil => cases hc
    | cons d y => cases hc; exact hright
  · rw [map_toLower_of_name fun c hc => hletters c (by simp [hc]), hrun]

theorem eq_contains_of_beginsWith {c : Char} (hc : isNameLetter c = true) {sign : List Char} (hsign : sign ∈ signs)
    (h : beginsWith sign (c :: cs) = true) : sign = Operator.contains.symbol := by
  have hfirst : sign.head? = some (foldCase c) := by
    cases sign with
    | nil => exact absurd hsign (by decide)
    | cons d sign =>
      simp only [beginsWith_cons, Bool.and_eq_true, decide_eq_true_eq] at h
      rw [h.1]; rfl
  exact of_ascii
    (P := fun c => isNameLetter c = true → ∀ sign ∈ signs, sign.head? = some (foldCase c) → sign = Operator.contains.symbol)
    (by decide +kernel) (ascii_of_isNameLetter hc) hc sign hsign hfirst

theorem beginsWith_name {x y : List Char} {c : Char} (hcs : IsName (x ++ c :: y)) (hrest : ∀ c ∈ rest.head?, isWord c = false)
    {sign : List Char} (hsign : sign ∈ signs) : beginsWith sign (c :: (y ++ rest)) = false := by
  rw [← Bool.not_eq_true]
  intro hfirst
  obtain rfl := eq_contains_of_beginsWith (hcs.letters c (by simp)) hsign hfirst
  have hword : ∀ c ∈ rest.head?, foldCase c ∉ Operator.contains.symbol := by
    intro c hc hmem
    have hlower : ∀ d ∈ Operator.contains.symbol, d.isLower = true := by decide
    have := isWord_of_foldCase (hlower _ hmem)
    rw [hrest c hc] at this; cases this
  rw [← List.cons_append, beginsWith_append hword] at hfirst
  obtain ⟨run, z, hy, hrun⟩ := exists_of_beginsWith hfirst
  rw [hy] at hcs
  refine hcs.no_contains ⟨x.map Char.toLower, z.map Char.toLower, ?_⟩
  rw [← hrun, ← map_toLower_of_name fun c hc => hcs.letters c (by simp [hc])]
  simp

/-- In a name no lexeme is found. -/
theorem lexemeLength_name {x y : List Char} {c : Char} (hcs : IsName (x ++ c :: y))
    (hrest : ∀ c ∈ rest.head?, isWord c = false) : lexemeLength (lastOr x before) (c :: (y ++ rest)) = 0 := by
  refine lexemeLength_eq_zero (fun k => ?_) fun sign hsign => beginsWith_name hcs hrest hsign
  rw [← List.cons_append, keywordFirst_append k hrest, keywordFirst_name hcs.letters hcs.no_keyword]

theorem spaceOut_name (hcs : IsName cs) (hrest : ∀ c ∈ rest.head?, isWord c = false) :
    spaceOut false before 0 (cs ++ rest) = cs ++ spaceOut false (lastOr cs before) 0 rest := by
  apply spaceOut_text (quote_not_mem hcs.letters)
  rintro x c y rfl
  exact lexemeLength_name hcs hrest

theorem ofText_name (hcs : IsName cs) : TokenKind.ofText cs = .ident := by
  -- were the name a keyword or an operator, it would be found in full
  have hnone : lexemeLength ' ' (cs ++ []) = 0 := by
    obtain ⟨c, y, rfl⟩ := List.exists_cons_of_ne_nil hcs.ne_nil
    exact lexemeLength_name (x := []) hcs (by simp)
  have hlength : cs.length ≠ 0 := fun h => hcs.ne_nil (List.eq_nil_of_length_eq_zero h)
  have hkeyword : Keyword.ofText? cs = none := by
    refine List.find?_eq_none.mpr fun k _ hk => hlength ?_
    have hk' : cs.map Char.toLower = k.word := (of_decide_eq_true hk).symm
    rw [← hnone, lexemeLength_word hk' (by decide) (by simp)]
  have hoperator : Operator.ofText? cs = none := by
    refine List.find?_eq_none.mpr fun op _ hop => hlength ?_
    have hop' : cs.map Char.toLower = op.symbol := (of_decide_eq_true hop).symm
    rw [← hnone, lexemeLength_sign (symbol_mem_signs op) (map_foldCase_symbol hop') (by simp)]
  have hletter : ∀ c ∈ cs, c ≠ '(' ∧ c ≠ ')' ∧ c ≠ '\'' := by
    intro c hc
    refine ⟨?_, ?_, ?_⟩ <;> (rintro rfl; have := hcs.letters _ hc; revert this; decide)
  have hparen : cs ≠ ['('] ∧ cs ≠ [')'] := by
    constructor <;> (rintro rfl; simp at hletter)
  have hquote : cs.head? ≠ some '\'' := fun h => (hletter _ (List.mem_of_head? h)).2.2 rfl
  rw [TokenKind.ofText, if_neg hparen.1, if_neg hparen.2, hkeyword, hoperator]
  exact if_neg hquote

end

end DocStore.Query
