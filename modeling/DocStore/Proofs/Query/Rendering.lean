import DocStore.Proofs.Query.Names
import DocStore.Proofs.Query.Quoting
import Mathlib.Data.List.Chain

/-!
# Tokens written down

A token sequence is written down with blanks between the tokens, as many as one likes, and none where a parenthesis or a
sign ends a word anyway. Cutting the text into tokens gives the sequence back (`tokenize_rendering`): the first pass puts
blanks around each lexeme and nowhere else, and the second cuts at these and at the blanks that were there.
-/

namespace DocStore.Query

open Text (isBlank isWord trim)

/-! ## Tokens that can be written down -/

namespace Token

inductive Legible : Token → Prop where
  | name {cs : List Char} (h : IsName cs) : Legible ⟨.ident, cs⟩
  | quoted {s : List Char} (h : '\'' ∉ s) : Legible ⟨.quoted, '\'' :: (s ++ ['\''])⟩
  | operator {cs : List Char} (op : Operator) (h : cs.map Char.toLower = op.symbol) : Legible ⟨.operator op, cs⟩
  | keyword {cs : List Char} (k : Keyword) (h : cs.map Char.toLower = k.word) : Legible ⟨.keyword k, cs⟩
  | lparen : Legible ⟨.lparen, ['(']⟩
  | rparen : Legible ⟨.rparen, [')']⟩

def isParen (t : Token) : Bool :=
  t.kind = .lparen || t.kind = .rparen

def isSymbol (t : Token) : Bool :=
  match t.kind with
  | .operator op => op ≠ .contains
  | _ => false

def MayTouch (t u : Token) : Prop :=
  t.isParen = true ∨ u.isParen = true ∨ t.isSymbol ≠ u.isSymbol

instance (t u : Token) : Decidable (t.MayTouch u) :=
  inferInstanceAs (Decidable (_ ∨ _ ∨ _))

end Token

def written (entries : List (Token × List Char)) : List Char :=
  entries.flatMap fun e => e.1.text ++ e.2

/-- Tokens that can be read back, with blanks in between where they would run together. -/
structure Spaced (entries : List (Token × List Char)) : Prop where
  legible : ∀ e ∈ entries, e.1.Legible
  blank : ∀ e ∈ entries, ∀ c ∈ e.2, isBlank c = true
  apart : entries.IsChain fun e f => e.2 ≠ [] ∨ e.1.MayTouch f.1

/-! ## One token -/

namespace Token

def isLexeme (t : Token) : Bool :=
  match t.kind with
  | .ident | .quoted => false
  | _ => true

def padded (t : Token) : List Char :=
  if t.isLexeme then ' ' :: (t.text ++ [' ']) else t.text

def endsWord (t : Token) : Bool :=
  t.isParen || t.isSymbol

def MayMeet (t : Token) (c : Char) : Prop :=
  match t.kind with
  | .ident | .keyword _ => isWord c = false
  | .operator op => op ≠ .contains → c ≠ '='
  | _ => True

end Token

section
variable {before : Char} {t u : Token} {rest : List Char}

namespace Token.Legible

theorem text_ne_nil (ht : t.Legible) : t.text ≠ [] := by
  cases ht with
  | name hcs => exact hcs.ne_nil
  | quoted hs => exact List.cons_ne_nil _ _
  | operator op hcs =>
    rintro rfl
    cases op <;> cases hcs
  | keyword k hcs =>
    rintro rfl
    cases k <;> cases hcs
  | lparen | rparen => exact List.cons_ne_nil _ _

theorem plain (ht : t.Legible) (hkind : t.kind ≠ .quoted) : ∀ c ∈ t.text, c ≠ '\'' ∧ isBlank c = false := by
  cases ht with
  | name hcs =>
    intro c hc
    have hletter := hcs.letters c hc
    exact of_ascii (P := fun c => isNameLetter c = true → c ≠ '\'' ∧ isBlank c = false) (by decide +kernel)
      (ascii_of_isNameLetter hletter) hletter
  | quoted hs => exact absurd rfl hkind
  | operator op hcs =>
    exact plain_of_map (map_foldCase_symbol hcs) (by cases op <;> decide)
  | keyword k hcs =>
    exact plain_of_map (map_foldCase_word hcs) (by cases k <;> decide)
  | lparen | rparen => decide

theorem solid (ht : t.Legible) : Solid t.text := by
  by_cases hkind : t.kind = .quoted
  · cases ht with
    | @quoted s hs =>
      have hclosed : inside false ('\'' :: (s ++ ['\''])) = false := by
        rw [inside_cons, inside_append, inside_of_not_mem hs]
        rfl
      exact ⟨List.cons_ne_nil _ _, hclosed, splitBlanks_quoted hs rfl, trim_around [] s []⟩
    | _ => cases hkind
  · exact solid_of_plain ht.text_ne_nil (ht.plain hkind)

theorem ofText_text (ht : t.Legible) : Token.ofText t.text = t := by
  have hkind : TokenKind.ofText t.text = t.kind := by
    cases ht with
    | name hcs => exact ofText_name hcs
    | quoted hs => exact kind_of_quote List.mem_cons_self
    | @operator cs op hcs =>
      have hparen : cs ≠ ['('] ∧ cs ≠ [')'] := by
        constructor <;> (rintro rfl; cases op <;> revert hcs <;> decide)
      have hkeyword : Keyword.ofText? cs = none := by
        rw [Keyword.ofText?, hcs]
        cases op <;> rfl
      have hoperator : Operator.ofText? cs = some op := by
        rw [Operator.ofText?, hcs]
        cases op <;> rfl
      rw [TokenKind.ofText, if_neg hparen.1, if_neg hparen.2, hkeyword, hoperator]
    | @keyword cs k hcs =>
      have hparen : cs ≠ ['('] ∧ cs ≠ [')'] := by
        constructor <;> (rintro rfl; cases k <;> revert hcs <;> decide)
      have hkeyword : Keyword.ofText? cs = some k := by
        rw [Keyword.ofText?, hcs]
        cases k <;> rfl
      rw [TokenKind.ofText, if_neg hparen.1, if_neg hparen.2, hkeyword]
    | lparen | rparen => rfl
  rw [Token.ofText, hkind]

end Token.Legible

theorem spaceOut_token (ht : t.Legible) (hbefore : (∃ k, t.kind = .keyword k) → isWord before = false)
    (hrest : ∀ c ∈ rest.head?, t.MayMeet c) :
    spaceOut false before 0 (t.text ++ rest) = t.padded ++ spaceOut false (lastOr t.text before) 0 rest := by
  have hlexeme : t.kind ≠ .quoted → lexemeLength before (t.text ++ rest) = t.text.length →
      spaceOut false before 0 (t.text ++ rest) =
        ' ' :: (t.text ++ [' ']) ++ spaceOut false (lastOr t.text before) 0 rest := by
    intro hkind hlength
    simpa using spaceOut_lexeme ht.text_ne_nil (fun hq => (ht.plain hkind _ hq).1 rfl) hlength
  cases ht with
  | name hcs => exact spaceOut_name hcs hrest
  | @quoted s hs =>
    have hlast : lastOr ('\'' :: (s ++ ['\''])) before = '\'' := by rw [lastOr_cons, lastOr_concat]
    simp [Token.padded, Token.isLexeme, hlast, spaceOut_quoted hs]
  | operator op hcs =>
    have hhalf : op.symbol = ['>'] ∨ op.symbol = ['<'] → op ≠ .contains := by
      rintro hop rfl
      revert hop; decide
    refine hlexeme TokenKind.noConfusion (lexemeLength_sign (symbol_mem_signs op) (map_foldCase_symbol hcs) ?_)
    exact fun hop c hc => hrest c hc (hhalf hop)
  | keyword k hcs => exact hlexeme TokenKind.noConfusion (lexemeLength_word hcs (hbefore ⟨k, rfl⟩) hrest)
  | lparen =>
    exact hlexeme TokenKind.noConfusion (lexemeLength_sign (w := ['(']) (by decide) (by decide) fun h => absurd h (by decide))
  | rparen =>
    exact hlexeme TokenKind.noConfusion (lexemeLength_sign (w := [')']) (by decide) (by decide) fun h => absurd h (by decide))

theorem cut_token (ht : t.Legible) (h : t.isLexeme = false → ∀ c ∈ rest.head?, isBlank c = true) :
    cut (t.padded ++ rest) = t.text :: cut rest := by
  have hspace : isBlank ' ' = true := by decide
  unfold Token.padded
  split
  · rw [List.cons_append, cut_cons_of_isBlank hspace, List.append_assoc, ht.solid.cut_append (by simp [hspace]),
      List.singleton_append, cut_cons_of_isBlank hspace]
  · rename_i hlexeme
    exact ht.solid.cut_append (h (Bool.eq_false_iff.mpr hlexeme))

/-! ## Two tokens -/

theorem endsWord_eq (t : Token) :
    t.endsWord =
      match t.kind with
      | .operator op => decide (op ≠ .contains)
      | .lparen | .rparen => true
      | _ => false := by
  unfold Token.endsWord Token.isParen Token.isSymbol
  cases t.kind <;> simp

theorem isWord_of_endsWord (ht : t.Legible) (h : t.endsWord = true) : ∀ c ∈ t.text, isWord c = false := by
  cases ht with
  | operator op hcs =>
    have hop : op ≠ .contains := by simpa [endsWord_eq] using h
    obtain rfl := eq_symbol hcs hop
    cases op with
    | contains => exact absurd rfl hop
    | _ => decide
  | lparen | rparen => decide
  | name | quoted | keyword => cases h

theorem isLexeme_of_endsWord (h : t.endsWord = true) : t.isLexeme = true := by
  unfold Token.isLexeme
  split <;> rename_i hkind
  · simp [endsWord_eq, hkind] at h
  · simp [endsWord_eq, hkind] at h
  · rfl

theorem isSymbol_of_isParen (h : t.isParen = true) : t.isSymbol = false := by
  simp only [Token.isParen, Bool.or_eq_true, decide_eq_true_eq] at h
  rcases h with h | h <;> simp [Token.isSymbol, h]

theorem Token.MayTouch.endsWord (h : t.MayTouch u) : t.endsWord = true ∨ u.endsWord = true := by
  unfold Token.endsWord
  rcases h with h | h | h
  · simp [h]
  · simp [h]
  · cases ht : t.isSymbol <;> simp_all

theorem ne_eq_of_isSymbol (ht : t.Legible) (h : t.isSymbol = false) : ∀ c ∈ t.text.head?, c ≠ '=' := by
  rintro c hc rfl
  cases ht with
  | name hcs =>
    have := hcs.letters _ (List.mem_of_head? hc)
    revert this; decide
  | operator op hcs =>
    obtain rfl : op = .contains := by simpa [Token.isSymbol] using h
    have : Char.toLower '=' ∈ Operator.contains.symbol := hcs ▸ List.mem_map_of_mem (List.mem_of_head? hc)
    revert this; decide
  | keyword k hcs =>
    have : Char.toLower '=' ∈ k.word := hcs ▸ List.mem_map_of_mem (List.mem_of_head? hc)
    revert this
    cases k <;> decide
  | quoted | lparen | rparen => simp at hc

theorem mayMeet_of_isBlank {c : Char} (h : isBlank c = true) : t.MayMeet c := by
  have hword : isWord c = false := isWord_of_isBlank h
  have heq : c ≠ '=' := by
    rintro rfl
    revert h; decide
  unfold Token.MayMeet
  split
  · exact hword
  · exact hword
  · exact fun _ => heq
  · trivial

theorem mayMeet_of_mayTouch (hu : u.Legible) (h : t.MayTouch u) : ∀ c ∈ u.text.head?, t.MayMeet c := by
  intro c hc
  have hword : t.endsWord = false → isWord c = false := by
    intro ht
    have hends := h.endsWord.resolve_left (by simp [ht])
    exact isWord_of_endsWord hu hends c (List.mem_of_head? hc)
  unfold Token.MayMeet
  split <;> rename_i hkind
  · exact hword (by simp [endsWord_eq, hkind])
  · exact hword (by simp [endsWord_eq, hkind])
  · intro hop
    have hsymbol : t.isSymbol = true := by simp [Token.isSymbol, hkind, hop]
    refine ne_eq_of_isSymbol hu ?_ c hc
    rcases h with hparen | hparen | hne
    · rw [isSymbol_of_isParen hparen] at hsymbol; cases hsymbol
    · exact isSymbol_of_isParen hparen
    · rw [hsymbol] at hne
      exact Bool.eq_false_iff.mpr hne.symm
  · trivial

end

/-! ## A whole text -/

section
variable {before : Char} {entries : List (Token × List Char)} {e : Token × List Char} {rest : List Char}

theorem Spaced.tail (h : Spaced (e :: entries)) : Spaced entries where
  legible f hf := h.legible f (List.mem_cons_of_mem e hf)
  blank f hf := h.blank f (List.mem_cons_of_mem e hf)
  apart := h.apart.tail

theorem head?_written (h : Spaced entries) : (written entries).head? = entries.head?.bind fun e => e.1.text.head? := by
  cases entries with
  | nil => rfl
  | cons e entries =>
    obtain ⟨c, cs, hcs⟩ := List.exists_cons_of_ne_nil (h.legible e List.mem_cons_self).text_ne_nil
    simp [written, hcs]

/-- What comes behind a token is a blank or a token that may touch it. -/
theorem Spaced.behind (h : Spaced (e :: entries)) {c : Char} (hc : c ∈ (e.2 ++ rest).head?) :
    isBlank c = true ∨ (c ∈ rest.head? ∧ ∀ f ∈ entries.head?, e.1.MayTouch f.1) := by
  cases hgap : e.2 with
  | nil =>
    rw [hgap] at hc
    exact .inr ⟨hc, fun f hf => ((List.isChain_cons.mp h.apart).1 f hf).resolve_left (absurd hgap)⟩
  | cons d gap =>
    rw [hgap] at hc
    cases hc
    exact .inl (h.blank e List.mem_cons_self c (by simp [hgap]))

theorem Spaced.mayMeet (h : Spaced (e :: entries)) : ∀ c ∈ (e.2 ++ written entries).head?, e.1.MayMeet c := by
  intro c hc
  rcases h.behind hc with hblank | ⟨hc, htouch⟩
  · exact mayMeet_of_isBlank hblank
  · rw [head?_written h.tail] at hc
    obtain ⟨f, hf, hc⟩ := Option.mem_bind_iff.mp hc
    exact mayMeet_of_mayTouch (h.tail.legible f (List.mem_of_head? hf)) (htouch f hf) c hc

theorem Spaced.keyword (h : Spaced (e :: entries)) :
    ∀ f ∈ entries.head?, (∃ k, f.1.kind = .keyword k) → isWord (lastOr e.2 (lastOr e.1.text before)) = false := by
  rintro f hf ⟨k, hk⟩
  by_cases hgap : e.2 = []
  · have htouch := ((List.isChain_cons.mp h.apart).1 f hf).resolve_left (absurd hgap)
    have hends := htouch.endsWord.resolve_right (by simp [endsWord_eq, hk])
    have hlegible := h.legible e List.mem_cons_self
    rw [hgap]
    exact isWord_of_endsWord hlegible hends _ (lastOr_mem hlegible.text_ne_nil before)
  · exact isWord_of_isBlank (h.blank e List.mem_cons_self _ (lastOr_mem hgap _))

theorem spaceOut_written (h : Spaced entries)
    (hbefore : ∀ e ∈ entries.head?, (∃ k, e.1.kind = .keyword k) → isWord before = false) :
    spaceOut false before 0 (written entries) = entries.flatMap fun e => e.1.padded ++ e.2 := by
  -- token by token; the next one only asks for what stands in front of it, and only if it is a keyword
  induction entries generalizing before with
  | nil => rfl
  | cons e entries ih =>
    have hlegible := h.legible e List.mem_cons_self
    have hgap := h.blank e List.mem_cons_self
    calc
      spaceOut false before 0 (written (e :: entries)) = spaceOut false before 0 (e.1.text ++ (e.2 ++ written entries)) := by
        simp [written]
      _ = e.1.padded ++ (e.2 ++ spaceOut false (lastOr e.2 (lastOr e.1.text before)) 0 (written entries)) := by
        rw [spaceOut_token hlegible (hbefore e rfl) h.mayMeet, spaceOut_blanks hgap]
      _ = (e :: entries).flatMap fun e => e.1.padded ++ e.2 := by
        rw [ih h.tail h.keyword, List.flatMap_cons, List.append_assoc]

theorem Spaced.padded (h : Spaced (e :: entries)) (hlexeme : e.1.isLexeme = false) :
    ∀ c ∈ (e.2 ++ entries.flatMap fun e => e.1.padded ++ e.2).head?, isBlank c = true := by
  intro c hc
  rcases h.behind hc with hblank | ⟨hc, htouch⟩
  · exact hblank
  cases entries with
  | nil => cases hc
  | cons f entries =>
    have hends : f.1.endsWord = true := (htouch f rfl).endsWord.resolve_left fun hends => by
      rw [isLexeme_of_endsWord hends] at hlexeme; cases hlexeme
    rw [List.flatMap_cons, Token.padded, isLexeme_of_endsWord hends] at hc
    cases hc
    decide

theorem cut_padded (h : Spaced entries) :
    cut (entries.flatMap fun e => e.1.padded ++ e.2) = entries.map fun e => e.1.text := by
  induction entries with
  | nil => rfl
  | cons e entries ih =>
    have hlegible := h.legible e List.mem_cons_self
    have hgap := h.blank e List.mem_cons_self
    rw [List.flatMap_cons, List.append_assoc, cut_token hlegible h.padded, cut_append_of_isBlank hgap, ih h.tail,
      List.map_cons]

/-- Cutting a text into tokens undoes writing them down, whatever blanks are chosen. -/
theorem tokenize_rendering {lead : List Char} (hlead : ∀ c ∈ lead, isBlank c = true) (h : Spaced entries) :
    tokenize (String.ofList (lead ++ written entries)) = entries.map Prod.fst := by
  have hbefore : isWord (lastOr lead ' ') = false := by
    by_cases hne : lead = []
    · rw [hne]; decide
    · exact isWord_of_isBlank (hlead _ (lastOr_mem hne ' '))
  rw [tokenize, String.toList_ofList, tokenizeChars_eq, spaceOut_blanks hlead, cut_append_of_isBlank hlead,
    spaceOut_written h fun _ _ _ => hbefore, cut_padded h, List.map_map]
  exact List.map_congr_left fun e he => (h.legible e he).ofText_text

end

/-- No blank is needed around a group, and none is seen inside quotes. -/
theorem tokenize_rendering_crowded :
    tokenize "\t(a.nor-1>=+2)oR\nNOT(band Contains  'x) or (y')" =
      [⟨.lparen, ['(']⟩, ⟨.ident, ['a', '.', 'n', 'o', 'r', '-', '1']⟩, ⟨.operator .ge, ['>', '=']⟩,
        ⟨.ident, ['+', '2']⟩, ⟨.rparen, [')']⟩, ⟨.keyword .or, ['o', 'R']⟩, ⟨.keyword .not, ['N', 'O', 'T']⟩,
        ⟨.lparen, ['(']⟩, ⟨.ident, ['b', 'a', 'n', 'd']⟩,
        ⟨.operator .contains, ['C', 'o', 'n', 't', 'a', 'i', 'n', 's']⟩,
        ⟨.quoted, ['\'', 'x', ')', ' ', 'o', 'r', ' ', '(', 'y', '\'']⟩, ⟨.rparen, [')']⟩] := by
  have hspaced : Spaced
      [(⟨.lparen, ['(']⟩, []), (⟨.ident, ['a', '.', 'n', 'o', 'r', '-', '1']⟩, []), (⟨.operator .ge, ['>', '=']⟩, []),
        (⟨.ident, ['+', '2']⟩, []), (⟨.rparen, [')']⟩, []), (⟨.keyword .or, ['o', 'R']⟩, ['\n']),
        (⟨.keyword .not, ['N', 'O', 'T']⟩, []), (⟨.lparen, ['(']⟩, []), (⟨.ident, ['b', 'a', 'n', 'd']⟩, [' ']),
        (⟨.operator .contains, ['C', 'o', 'n', 't', 'a', 'i', 'n', 's']⟩, [' ', ' ']),
        (⟨.quoted, ['\'', 'x', ')', ' ', 'o', 'r', ' ', '(', 'y', '\'']⟩, []), (⟨.rparen, [')']⟩, [])] := by
    refine ⟨?_, by decide, by decide⟩
    simp only [List.forall_mem_cons]
    exact ⟨.lparen, .name (by decide), .operator .ge (by decide), .name (by decide), .rparen, .keyword .or (by decide),
      .keyword .not (by decide), .lparen, .name (by decide), .operator .contains (by decide),
      .quoted (s := ['x', ')', ' ', 'o', 'r', ' ', '(', 'y']) (by decide), .rparen, by simp⟩
  have hlead : ∀ c ∈ ['\t'], isBlank c = true := by decide
  simpa [written] using tokenize_rendering hlead hspaced

end DocStore.Query
