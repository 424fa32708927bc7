import DocStore.Query.Token
import Mathlib.Data.List.Find

/-!
# Lexemes

Whether a lexeme stands at some place of a query is decided by its own characters, and for a keyword also by its two
neighbours. A character that is in no word and no lexeme therefore separates: what is found in front of it does not
depend on what comes behind it (`lexemeLength_append`). What is written as a lexeme is found in full
(`lexemeLength_word`, `lexemeLength_sign`).
-/

namespace DocStore.Query

open Text (isBlank isWord)

/-! ## Characters -/

-- what is said of the characters of a text is decided along the text, not for all characters there are
instance (priority := high) decidableForallMem {P : Char → Prop} [DecidablePred P] (cs : List Char) :
    Decidable (∀ c ∈ cs, P c) :=
  List.decidableBAll P cs

theorem of_ascii {P : Char → Prop} (h : ∀ n < 128, P (Char.ofNat n)) {c : Char} (hc : c.toNat < 128) : P c := by
  have := h c.toNat hc
  rwa [Char.ofNat_toNat] at this

theorem ascii_of_isAlphanum {c : Char} (h : c.isAlphanum = true) : c.toNat < 128 := by
  have hz : 'z'.val.toNat = 122 := rfl
  have hZ : 'Z'.val.toNat = 90 := rfl
  have h9 : '9'.val.toNat = 57 := rfl
  delta Char.isAlphanum Char.isAlpha Char.isUpper Char.isLower Char.isDigit at h
  simp only [Bool.or_eq_true, Bool.and_eq_true, decide_eq_true_eq, UInt32.le_iff_toNat_le] at h
  show c.val.toNat < 128
  omega

theorem toLower_of_not_ascii {c : Char} (h : 128 ≤ c.toNat) : c.toLower = c := by
  have hZ : 'Z'.val.toNat = 90 := rfl
  have hc : c.toNat = c.val.toNat := rfl
  unfold Char.toLower
  rw [dif_neg]
  rw [UInt32.le_iff_toNat_le]
  omega

theorem ascii_of_foldCase {c : Char} (h : (foldCase c).toNat < 128) : c.toNat < 128 ∨ c.toNat = 0x17F := by
  unfold foldCase at h
  split at h
  · rename_i hs; exact .inr hs
  · rcases Nat.lt_or_ge c.toNat 128 with hc | hc
    · exact .inl hc
    · rw [toLower_of_not_ascii hc] at h; exact .inl h

theorem foldCase_eq_toLower {c : Char} (h : c.toLower.toNat < 128) : foldCase c = c.toLower := by
  unfold foldCase
  rw [if_neg]
  intro hs
  rw [toLower_of_not_ascii (by omega)] at h
  omega

theorem of_foldCase {P : Char → Prop} (h : ∀ n < 128, P (Char.ofNat n)) (hs : P (Char.ofNat 0x17F)) {c : Char}
    (hc : (foldCase c).toNat < 128) : P c := by
  rcases ascii_of_foldCase hc with hascii | hlong
  · exact of_ascii h hascii
  · rwa [← Char.ofNat_toNat c, hlong]

theorem eq_of_foldCase {c : Char} (h : foldCase c ∈ ['=', '!', '<', '>']) : c = foldCase c := by
  have hmarks : ∀ d ∈ ['=', '!', '<', '>'], d.toNat < 128 := by decide
  exact of_foldCase (P := fun c => foldCase c ∈ ['=', '!', '<', '>'] → c = foldCase c) (by decide +kernel) (by decide)
    (hmarks _ h) h

theorem isWord_of_foldCase {c : Char} (h : (foldCase c).isLower = true) : isWord c = true := by
  have halpha : (foldCase c).isAlpha = true := (Bool.or_eq_true ..).mpr (.inr h)
  have hascii : (foldCase c).toNat < 128 := ascii_of_isAlphanum ((Bool.or_eq_true ..).mpr (.inl halpha))
  exact of_foldCase (P := fun c => (foldCase c).isLower = true → isWord c = true) (by decide +kernel) (by decide +kernel)
    hascii h

def apart (as bs : List (Nat × Nat)) : Bool :=
  as.all fun a => bs.all fun b => Nat.blt a.2 b.1 || Nat.blt b.2 a.1

theorem inRanges_of_apart {as bs : List (Nat × Nat)} (h : apart as bs = true) {c : Char}
    (hc : Text.inRanges as c = true) : Text.inRanges bs c = false := by
  obtain ⟨a, ha, hca⟩ := List.any_eq_true.mp hc
  refine List.any_eq_false.mpr fun b hb => ?_
  have hab := List.all_eq_true.mp (List.all_eq_true.mp h a ha) b hb
  simp only [Bool.and_eq_true, Bool.or_eq_true, decide_eq_true_eq, Nat.blt_eq] at hca hab ⊢
  omega

theorem isWord_of_isBlank {c : Char} (h : isBlank c = true) : isWord c = false := by
  unfold isWord
  split
  · rename_i hascii
    exact of_ascii (P := fun c => isBlank c = true → (c.isAlphanum || c = '_') = false) (by decide +kernel) hascii h
  · exact inRanges_of_apart (by decide +kernel) h

theorem isBlank_foldCase {c : Char} (h : isBlank c = true) : isBlank (foldCase c) = true := by
  rcases Nat.lt_or_ge c.toNat 128 with hc | hc
  · exact of_ascii (P := fun c => isBlank c = true → isBlank (foldCase c) = true) (by decide +kernel) hc h
  · unfold foldCase
    split
    · rename_i hs
      rw [← Char.ofNat_toNat c, hs] at h
      revert h; decide
    · rw [toLower_of_not_ascii hc, h]

/-! ## What comes first in a text -/

section
variable {before c d : Char} {word cs rest w : List Char}

@[simp] theorem beginsWith_nil : beginsWith [] cs = true := by
  simp [beginsWith]

@[simp] theorem beginsWith_cons_nil : beginsWith (d :: word) [] = false := by
  simp [beginsWith]

@[simp] theorem beginsWith_cons : beginsWith (d :: word) (c :: cs) = (decide (foldCase c = d) && beginsWith word cs) := by
  simp [beginsWith]

/-- A word that the rest cannot go on with is found only in front of it. -/
theorem beginsWith_append (h : ∀ c ∈ rest.head?, foldCase c ∉ word) :
    beginsWith word (cs ++ rest) = beginsWith word cs := by
  induction word generalizing cs with
  | nil => simp
  | cons d word ih =>
    have hword : ∀ c ∈ rest.head?, foldCase c ∉ word := fun c hc hmem => h c hc (List.mem_cons_of_mem d hmem)
    cases cs with
    | nil =>
      cases rest with
      | nil => rfl
      | cons c rest =>
        have hc : foldCase c ≠ d := fun hd => h c rfl (hd ▸ List.mem_cons_self ..)
        simp [hc]
    | cons c cs => simp [ih hword]

theorem length_le_of_beginsWith (hq : '\'' ∉ word) (h : beginsWith word cs = true) :
    word.length ≤ (cs.takeWhile (· ≠ '\'')).length := by
  induction word generalizing cs with
  | nil => exact Nat.zero_le _
  | cons d word ih =>
    obtain ⟨hd, hword⟩ := List.ne_and_not_mem_of_not_mem_cons hq
    cases cs with
    | nil => simp at h
    | cons c cs =>
      simp only [beginsWith_cons, Bool.and_eq_true, decide_eq_true_eq] at h
      have hquote : foldCase '\'' = '\'' := by decide
      have hc : c ≠ '\'' := by
        rintro rfl
        exact hd (hquote.symm.trans h.1)
      simpa [hc] using ih hword h.2

theorem exists_of_beginsWith {word : List Char} (h : beginsWith word cs = true) :
    ∃ run y, cs = run ++ y ∧ run.map foldCase = word :=
  ⟨cs.take word.length, cs.drop word.length, (List.take_append_drop ..).symm, of_decide_eq_true h⟩

/-- What a text with known letters begins with. -/
theorem beginsWith_of_map (h : cs.map foldCase = w) (word : List Char) :
    beginsWith word (cs ++ rest) = decide ((w ++ rest.map foldCase).take word.length = word) := by
  rw [beginsWith, List.map_take, List.map_append, h]

theorem drop_append_of_beginsWith (h : beginsWith word cs = true) :
    (cs ++ rest).drop word.length = cs.drop word.length ++ rest := by
  refine List.drop_append_of_le_length ?_
  have := congrArg List.length (of_decide_eq_true h)
  simp at this
  omega

theorem atWordEnd_append (h : ∀ c ∈ rest.head?, isWord c = false) : atWordEnd (cs ++ rest) = atWordEnd cs := by
  cases cs with
  | nil =>
    cases rest with
    | nil => rfl
    | cons c rest => simp [atWordEnd, h c rfl]
  | cons c cs => rfl

/-! ## Lexemes -/

def signs : List (List Char) :=
  [['=', '='], ['!', '='], ['>', '='], ['<', '='], ['>'], ['<'], Operator.contains.symbol, ['('], [')']]

def keywordFirst (before : Char) (cs word : List Char) : Bool :=
  !isWord before && beginsWith word cs && atWordEnd (cs.drop word.length)

theorem lexemeLength_eq (before : Char) (cs : List Char) :
    lexemeLength before cs =
      (((Keyword.all.map Keyword.word).find? (keywordFirst before cs)).or (signs.find? (beginsWith · cs))).elim 0
        List.length := by
  dsimp only [lexemeLength]
  split
  · rename_i word hword
    have hword' : (Keyword.all.map Keyword.word).find? (keywordFirst before cs) = some word := hword
    rw [hword']; rfl
  · rename_i hword
    have hword' : (Keyword.all.map Keyword.word).find? (keywordFirst before cs) = none := hword
    rw [hword', Option.none_or]
    split
    · rename_i sign hsign
      have hsign' : signs.find? (beginsWith · cs) = some sign := hsign
      rw [hsign']; rfl
    · rename_i hsign
      have hsign' : signs.find? (beginsWith · cs) = none := hsign
      rw [hsign']; rfl

theorem isLower_of_mem_word {k : Keyword} (h : c ∈ k.word) : c.isLower = true := by
  revert c
  cases k <;> decide

theorem keywordFirst_append (k : Keyword) (h : ∀ c ∈ rest.head?, isWord c = false) :
    keywordFirst before (cs ++ rest) k.word = keywordFirst before cs k.word := by
  have hword : ∀ c ∈ rest.head?, foldCase c ∉ k.word := by
    intro c hc hmem
    have := isWord_of_foldCase (isLower_of_mem_word hmem)
    rw [h c hc] at this; cases this
  unfold keywordFirst
  rw [beginsWith_append hword]
  cases hfirst : beginsWith k.word cs with
  | false => simp
  | true => rw [drop_append_of_beginsWith hfirst, atWordEnd_append h]

theorem lexemeLength_congr {before' : Char} {cs' : List Char}
    (hwords : ∀ k : Keyword, keywordFirst before cs k.word = keywordFirst before' cs' k.word)
    (hsigns : ∀ sign ∈ signs, beginsWith sign cs = beginsWith sign cs') :
    lexemeLength before cs = lexemeLength before' cs' := by
  rw [lexemeLength_eq, lexemeLength_eq, List.find?_congr hsigns]
  congr 2
  refine List.find?_congr fun word hword => ?_
  obtain ⟨k, -, rfl⟩ := List.mem_map.mp hword
  exact hwords k

@[simp] theorem lexemeLength_nil : lexemeLength before [] = 0 := by
  simp [lexemeLength_eq, Keyword.all, Keyword.word, keywordFirst, signs, Operator.symbol]

theorem lexemeLength_eq_zero (hwords : ∀ k : Keyword, keywordFirst before cs k.word = false)
    (hsigns : ∀ sign ∈ signs, beginsWith sign cs = false) : lexemeLength before cs = 0 := by
  rw [← @lexemeLength_nil before]
  refine lexemeLength_congr (fun k => ?_) fun sign hsign => ?_
  · rw [hwords]; cases k <;> simp [keywordFirst, Keyword.word]
  · rw [hsigns sign hsign]
    revert sign; decide

structure Separates (c : Char) : Prop where
  not_word : isWord c = false
  not_sign : ∀ sign ∈ signs, foldCase c ∉ sign

theorem separates_quote : Separates '\'' :=
  ⟨by decide, by decide⟩

theorem separates_of_isBlank (h : isBlank c = true) : Separates c where
  not_word := isWord_of_isBlank h
  not_sign sign hsign hmem := by
    have hplain : ∀ sign ∈ signs, ∀ d ∈ sign, isBlank d = false := by decide
    have := hplain sign hsign _ hmem
    rw [isBlank_foldCase h] at this; cases this

theorem lexemeLength_append (h : ∀ c ∈ rest.head?, Separates c) :
    lexemeLength before (cs ++ rest) = lexemeLength before cs :=
  lexemeLength_congr (fun k => keywordFirst_append k fun c hc => (h c hc).not_word)
    fun sign hsign => beginsWith_append fun c hc => (h c hc).not_sign sign hsign

theorem lexemeLength_of_separates (h : Separates c) : lexemeLength before (c :: cs) = 0 := by
  have hfirst : ∀ d ∈ (c :: cs).head?, Separates d := by
    intro d hd; cases hd; exact h
  rw [← List.nil_append (c :: cs), lexemeLength_append hfirst, lexemeLength_nil]

/-- No lexeme reaches over a quote. -/
theorem lexemeLength_le (before : Char) (cs : List Char) :
    lexemeLength before cs ≤ (cs.takeWhile (· ≠ '\'')).length := by
  rw [lexemeLength_eq]
  cases hfound : ((Keyword.all.map Keyword.word).find? (keywordFirst before cs)).or (signs.find? (beginsWith · cs)) with
  | none => exact Nat.zero_le _
  | some word =>
    rcases Option.or_eq_some_iff.mp hfound with hword | ⟨-, hsign⟩
    · obtain ⟨k, -, rfl⟩ := List.mem_map.mp (List.mem_of_find?_eq_some hword)
      have hfirst := List.find?_some hword
      simp only [keywordFirst, Bool.and_eq_true] at hfirst
      refine length_le_of_beginsWith (fun hq => ?_) hfirst.1.2
      cases isLower_of_mem_word hq
    · have hplain : ∀ sign ∈ signs, '\'' ∉ sign := by decide
      have hfirst : beginsWith word cs = true := List.find?_some (p := (beginsWith · cs)) hsign
      exact length_le_of_beginsWith (hplain word (List.mem_of_find?_eq_some hsign)) hfirst

/-! ## Whole lexemes -/

def lexemes : List (List Char) :=
  Keyword.all.map Keyword.word ++ signs

/-- What is found is one of the lexemes, in some mixture of small and capital letters. -/
theorem mem_lexemes_of_lexemeLength (hne : cs ≠ []) (h : lexemeLength before (cs ++ rest) = cs.length) :
    cs.map foldCase ∈ lexemes := by
  have hword : ∀ {word : List Char}, beginsWith word (cs ++ rest) = true → word.length = cs.length →
      cs.map foldCase = word := by
    intro word hfirst hlength
    have hfold : ((cs ++ rest).take word.length).map foldCase = word := of_decide_eq_true hfirst
    rwa [List.take_left' hlength.symm] at hfold
  rw [lexemeLength_eq] at h
  unfold lexemes
  cases hfound : ((Keyword.all.map Keyword.word).find? (keywordFirst before (cs ++ rest))).or
      (signs.find? (beginsWith · (cs ++ rest))) with
  | none =>
    rw [hfound] at h
    exact absurd (List.eq_nil_of_length_eq_zero h.symm) hne
  | some word =>
    rw [hfound] at h
    rcases Option.or_eq_some_iff.mp hfound with hkeyword | ⟨-, hsign⟩
    · have hfirst := List.find?_some hkeyword
      simp only [keywordFirst, Bool.and_eq_true] at hfirst
      rw [hword hfirst.1.2 h]
      exact List.mem_append_left _ (List.mem_of_find?_eq_some hkeyword)
    · rw [hword (List.find?_some (p := (beginsWith · (cs ++ rest))) hsign) h]
      exact List.mem_append_right _ (List.mem_of_find?_eq_some hsign)

theorem map_foldCase (h : cs.map Char.toLower = w) (hw : ∀ c ∈ w, c.toNat < 128) : cs.map foldCase = w := by
  rw [← h]
  refine List.map_congr_left fun c hc => foldCase_eq_toLower (hw _ ?_)
  rw [← h]; exact List.mem_map_of_mem hc

theorem map_foldCase_word {k : Keyword} (h : cs.map Char.toLower = k.word) : cs.map foldCase = k.word :=
  map_foldCase h (by cases k <;> decide)

theorem map_foldCase_symbol {op : Operator} (h : cs.map Char.toLower = op.symbol) : cs.map foldCase = op.symbol :=
  map_foldCase h (by cases op <;> decide)

theorem plain_of_map (h : cs.map foldCase = w) (hw : ∀ c ∈ w, c ≠ '\'' ∧ isBlank c = false) :
    ∀ c ∈ cs, c ≠ '\'' ∧ isBlank c = false := by
  intro c hc
  have hplain := hw (foldCase c) (h ▸ List.mem_map_of_mem hc)
  constructor
  · rintro rfl
    exact hplain.1 (by decide)
  · rw [← Bool.not_eq_true]
    intro hblank
    rw [isBlank_foldCase hblank] at hplain; cases hplain.2

theorem eq_symbol {op : Operator} (h : cs.map Char.toLower = op.symbol) (hop : op ≠ .contains) : cs = op.symbol := by
  have hfold : cs.map foldCase = op.symbol := map_foldCase_symbol h
  have hmarks : ∀ d ∈ op.symbol, d ∈ ['=', '!', '<', '>'] := by
    cases op with
    | contains => exact absurd rfl hop
    | _ => decide
  calc
    cs = cs.map id := (List.map_id cs).symm
    _ = cs.map foldCase := List.map_congr_left fun c hc => eq_of_foldCase (hmarks _ (hfold ▸ List.mem_map_of_mem hc))
    _ = op.symbol := hfold

theorem symbol_mem_signs (op : Operator) : op.symbol ∈ signs := by
  cases op <;> decide

theorem lexemeLength_word {k : Keyword} (hcs : cs.map Char.toLower = k.word) (hbefore : isWord before = false)
    (hrest : ∀ c ∈ rest.head?, isWord c = false) : lexemeLength before (cs ++ rest) = cs.length := by
  have hfold : cs.map foldCase = k.word := map_foldCase_word hcs
  have hlength : cs.length = k.word.length := by rw [← hfold, List.length_map]
  have hend : atWordEnd rest = true := by
    cases rest with
    | nil => rfl
    | cons c rest => simp [atWordEnd, hrest c rfl]
  have hdrop : (cs ++ rest).drop k.word.length = rest := List.drop_left' hlength
  rw [hlength]
  cases k <;>
    simp_all [lexemeLength_eq, keywordFirst, beginsWith_of_map hfold, Keyword.all, Keyword.word]

/-- A sign is found whatever stands around it, but for the two that are the first half of another one. -/
theorem lexemeLength_sign (hw : w ∈ signs) (hcs : cs.map foldCase = w)
    (hrest : w = ['>'] ∨ w = ['<'] → ∀ c ∈ rest.head?, c ≠ '=') : lexemeLength before (cs ++ rest) = cs.length := by
  have hlength : cs.length = w.length := by rw [← hcs, List.length_map]
  have hnext : w = ['>'] ∨ w = ['<'] → (rest.map foldCase).take 1 ≠ ['='] := by
    intro hhalf
    cases rest with
    | nil => simp
    | cons c rest =>
      have hc : foldCase c ≠ '=' := fun h => hrest hhalf c rfl ((eq_of_foldCase (by simp [h])).trans h)
      simpa using hc
  rw [hlength]
  -- for each sign, those before it in the list do not come first
  simp only [signs, List.mem_cons, List.not_mem_nil, or_false] at hw
  rcases hw with rfl | rfl | rfl | rfl | rfl | rfl | rfl | rfl | rfl <;>
    simp_all [lexemeLength_eq, keywordFirst, signs, beginsWith_of_map hcs, Operator.symbol, Keyword.all, Keyword.word]

end

end DocStore.Query
