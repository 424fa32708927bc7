import DocStore.Proofs.Query.Quoting

/-!
# What becomes of the characters of a query

The tokens of a query share out its characters. Blanks apart, none is lost and none is put in, and the order stays
(`withoutBlanks_texts`). Quoted text is kept in one token as it stands, while a parenthesis outside quotes is a token of
its own: the first pass has put a blank on either side of it (`count_paren`).
-/

namespace DocStore.Query

open Text (isBlank trim trimLeft trimRight)

/-! ## Characters but blanks, and characters outside quotes -/

def withoutBlanks (cs : List Char) : List Char :=
  cs.filter fun c => !isBlank c

/-- The characters outside quotes; the quotes are none of them. -/
def unquoted (inQuotes : Bool) : List Char → List Char
  | [] => []
  | c :: rest =>
    if c = '\'' then unquoted (!inQuotes) rest
    else if inQuotes then unquoted inQuotes rest
    else c :: unquoted inQuotes rest

section
variable {b : Bool} {c : Char} {cs ds : List Char}

theorem withoutBlanks_append : withoutBlanks (cs ++ ds) = withoutBlanks cs ++ withoutBlanks ds :=
  List.filter_append ..

theorem withoutBlanks_of_blank (h : ∀ c ∈ cs, isBlank c = true) : withoutBlanks cs = [] := by
  apply List.filter_eq_nil_iff.mpr
  intro c hc
  simp [h c hc]

theorem unquoted_quote : unquoted b ('\'' :: cs) = unquoted (!b) cs := rfl

theorem unquoted_kept (hc : c ≠ '\'') : unquoted true (c :: cs) = unquoted true cs := by
  rw [unquoted, if_neg hc, if_pos rfl]

theorem unquoted_plain (hc : c ≠ '\'') : unquoted false (c :: cs) = c :: unquoted false cs := by
  rw [unquoted, if_neg hc, if_neg Bool.false_ne_true]

theorem unquoted_append : unquoted b (cs ++ ds) = unquoted b cs ++ unquoted (inside b cs) ds := by
  induction cs generalizing b with
  | nil => rfl
  | cons c cs ih =>
    rw [List.cons_append, inside_cons]
    by_cases hc : c = '\''
    · rw [if_pos hc, hc, unquoted_quote, unquoted_quote, ih]
    · rw [if_neg hc]
      cases b with
      | true => rw [unquoted_kept hc, unquoted_kept hc, ih]
      | false => rw [unquoted_plain hc, unquoted_plain hc, ih, List.cons_append]

theorem unquoted_of_not_mem (h : '\'' ∉ cs) : unquoted false cs = cs := by
  induction cs with
  | nil => rfl
  | cons c cs ih =>
    obtain ⟨hc, hcs⟩ := List.ne_and_not_mem_of_not_mem_cons h
    rw [unquoted_plain (Ne.symm hc), ih hcs]

end

/-! ## Trimming -/

theorem withoutBlanks_trim (w : List Char) : withoutBlanks (trim w) = withoutBlanks w := by
  obtain ⟨g, h, hg, hh, hw, -⟩ := exists_trim w
  calc
    withoutBlanks (trim w) = withoutBlanks g ++ (withoutBlanks (trim w) ++ withoutBlanks h) := by
      rw [withoutBlanks_of_blank hg, withoutBlanks_of_blank hh, List.append_nil, List.nil_append]
    _ = withoutBlanks w := by rw [← withoutBlanks_append, ← withoutBlanks_append, ← hw]

theorem mem_unquoted_of_trim {w : List Char} {c : Char} (hc : c ∈ unquoted false (trim w)) : c ∈ unquoted false w := by
  obtain ⟨g, h, hg, -, hw, -⟩ := exists_trim w
  have hquote : '\'' ∉ g := fun hmem => ne_quote_of_isBlank (hg _ hmem) rfl
  rw [hw, unquoted_append, inside_of_not_mem hquote, unquoted_append]
  exact List.mem_append_right _ (List.mem_append_left _ hc)

/-! ## The words of a text -/

def texts (words : List (List Char)) : List (List Char) :=
  (words.map trim).filter (· ≠ [])

section
variable {words : List (List Char)}

theorem texts_append (words others : List (List Char)) : texts (words ++ others) = texts words ++ texts others := by
  simp [texts]

theorem tokenize_eq (e : String) :
    tokenize e = (texts (splitBlanks false (spaceOut false ' ' 0 e.toList))).map Token.ofText := rfl

theorem flatMap_text (words : List (List Char)) : (words.map Token.ofText).flatMap Token.text = words.flatten := by
  induction words with
  | nil => rfl
  | cons w words ih => rw [List.map_cons, List.flatMap_cons, ih]; rfl

theorem withoutBlanks_texts (words : List (List Char)) :
    withoutBlanks (texts words).flatten = withoutBlanks words.flatten := by
  induction words with
  | nil => rfl
  | cons w words ih =>
    have hfirst : withoutBlanks (texts [w]).flatten = withoutBlanks w := by
      by_cases hw : trim w = []
      · have hblank := withoutBlanks_trim w
        rw [hw] at hblank
        simpa [texts, hw] using hblank
      · simpa [texts, hw] using withoutBlanks_trim w
    rw [← List.singleton_append, texts_append, List.flatten_append, List.flatten_append, withoutBlanks_append,
      withoutBlanks_append, hfirst, ih, List.flatten_singleton]

theorem flatten_onto (c : Char) (words : List (List Char)) : (onto c words).flatten = c :: words.flatten := by
  cases words <;> rfl

theorem withoutBlanks_splitBlanks (b : Bool) (cs : List Char) :
    withoutBlanks (splitBlanks b cs).flatten = withoutBlanks cs := by
  have honto : ∀ {c : Char} {cs : List Char} {words : List (List Char)},
      withoutBlanks words.flatten = withoutBlanks cs → withoutBlanks (onto c words).flatten = withoutBlanks (c :: cs) := by
    intro c cs words h
    rw [flatten_onto, ← List.singleton_append, withoutBlanks_append, h, ← withoutBlanks_append, List.singleton_append]
  induction cs generalizing b with
  | nil => rfl
  | cons c cs ih =>
    rw [splitBlanks]
    split
    · exact honto (ih _)
    · split
      · rename_i hblank
        have hc : isBlank c = true := by
          rw [Bool.and_eq_true] at hblank
          exact hblank.1
        rw [List.flatten_cons, List.nil_append, ih, withoutBlanks, withoutBlanks, List.filter_cons_of_neg (by simp [hc])]
      · exact honto (ih _)

/-- Cutting leaves blanks only inside quotes. -/
theorem unquoted_of_splitBlanks {b : Bool} {cs w : List Char} (h : splitBlanks b cs = w :: words) :
    (∀ c ∈ unquoted b w, isBlank c = false) ∧ ∀ v ∈ words, ∀ c ∈ unquoted false v, isBlank c = false := by
  induction cs generalizing b w words with
  | nil =>
    cases h
    simp [unquoted]
  | cons c cs ih =>
    rw [splitBlanks] at h
    by_cases hc : c = '\''
    · obtain ⟨w', words', hrest⟩ := List.exists_cons_of_ne_nil (splitBlanks_ne_nil (!b) cs)
      rw [if_pos hc, hrest] at h
      cases h
      rw [hc, unquoted_quote]
      exact ih hrest
    · obtain ⟨w', words', hrest⟩ := List.exists_cons_of_ne_nil (splitBlanks_ne_nil b cs)
      obtain ⟨hfirst, hothers⟩ := ih hrest
      rw [if_neg hc, hrest] at h
      by_cases hblank : (isBlank c && !b) = true
      · rw [if_pos hblank] at h
        cases h
        obtain rfl : b = false := by simpa using (Bool.and_eq_true_iff.mp hblank).2
        refine ⟨by simp [unquoted], ?_⟩
        intro v hv
        rcases List.mem_cons.mp hv with rfl | hv
        · exact hfirst
        · exact hothers v hv
      · rw [if_neg hblank] at h
        cases h
        refine ⟨?_, hothers⟩
        cases b with
        | true =>
          rw [unquoted_kept hc]
          exact hfirst
        | false =>
          rw [unquoted_plain hc]
          intro d hd
          rcases List.mem_cons.mp hd with rfl | hd
          · simpa using hblank
          · exact hfirst d hd

theorem text_of_mem_texts {cs w : List Char} (h : w ∈ texts (splitBlanks false cs)) :
    w ≠ [] ∧ trim w = w ∧ ∀ c ∈ unquoted false w, isBlank c = false := by
  obtain ⟨hmem, hne⟩ := List.mem_filter.mp h
  obtain ⟨v, hv, rfl⟩ := List.mem_map.mp hmem
  refine ⟨by simpa using hne, trim_trim v, ?_⟩
  intro c hc
  obtain ⟨first, others, hwords⟩ := List.exists_cons_of_ne_nil (splitBlanks_ne_nil false cs)
  obtain ⟨hfirst, hothers⟩ := unquoted_of_splitBlanks hwords
  rw [hwords] at hv
  rcases List.mem_cons.mp hv with rfl | hv
  · exact hfirst c (mem_unquoted_of_trim hc)
  · exact hothers v hv c (mem_unquoted_of_trim hc)

end

/-! ## Parentheses -/

theorem solid_of_lexeme {w : List Char} (hne : w ≠ []) (h : w.map foldCase ∈ lexemes) :
    Solid w ∧ '\'' ∉ w := by
  have hlexemes : ∀ v ∈ lexemes, ∀ c ∈ v, c ≠ '\'' ∧ isBlank c = false := by decide
  have hplain := plain_of_map rfl (hlexemes _ h)
  exact ⟨solid_of_plain hne hplain, fun hmem => (hplain _ hmem).1 rfl⟩

theorem splitBlanks_lexeme {w ds : List Char} (hw : Solid w) :
    splitBlanks false (' ' :: (w ++ ' ' :: ds)) = [] :: w :: splitBlanks false ds := by
  have hspace : isBlank ' ' = true := by decide
  rw [← List.nil_append (' ' :: _), splitBlanks_append_blank rfl hspace, splitBlanks_append_blank hw.closed hspace,
    hw.uncut]
  rfl

section
variable {p : Char} (hp : p = '(' ∨ p = ')')
include hp

theorem ne_quote_of_paren : p ≠ '\'' := by
  rcases hp with rfl | rfl <;> decide

theorem lexemeLength_paren (before : Char) (cs : List Char) : lexemeLength before (p :: cs) = 1 := by
  have hsign : [p] ∈ signs := by
    rcases hp with rfl | rfl <;> decide
  have hfold : [p].map foldCase = [p] := by
    rcases hp with rfl | rfl <;> decide
  have hhalf : [p] ≠ ['>'] ∧ [p] ≠ ['<'] := by
    rcases hp with rfl | rfl <;> decide
  exact lexemeLength_sign hsign hfold fun h => absurd h (by simp [hhalf])

theorem eq_paren_of_lexeme {w : List Char} (h : w.map foldCase ∈ lexemes) (hmem : p ∈ w) : w = [p] := by
  have hfold : foldCase p = p := by
    rcases hp with rfl | rfl <;> decide
  have honly : ∀ v ∈ lexemes, p ∈ v → v = [p] := by
    rcases hp with rfl | rfl <;> decide
  have hw : w.map foldCase = [p] := honly _ h (by simpa [hfold] using List.mem_map_of_mem (f := foldCase) hmem)
  obtain ⟨c, rfl⟩ : ∃ c, w = [c] := by
    apply List.length_eq_one_iff.mp
    rw [← List.length_map foldCase, hw]
    rfl
  rw [List.mem_singleton.mp hmem]

theorem count_lexeme {w : List Char} (h : w.map foldCase ∈ lexemes) : w.count p = if w = [p] then 1 else 0 := by
  by_cases hmem : p ∈ w
  · rw [eq_paren_of_lexeme hp h hmem]
    simp
  · have hother : w ≠ [p] := by
      rintro rfl
      exact hmem List.mem_cons_self
    rw [if_neg hother, List.count_eq_zero_of_not_mem hmem]

theorem trim_ne_paren {w : List Char} (h : p ∉ unquoted false w) : trim w ≠ [p] := by
  intro htrim
  apply h
  apply mem_unquoted_of_trim
  rw [htrim, unquoted_plain (ne_quote_of_paren hp)]
  exact List.mem_cons_self

/-- After the first pass a parenthesis outside quotes is a word of its own. -/
theorem count_paren {b : Bool} {before : Char} {cs ds : List Char} (h : Padded b before cs ds) :
    ∀ {w : List Char} {words : List (List Char)}, splitBlanks b ds = w :: words →
      p ∉ unquoted b w ∧ (words.map trim).count [p] = (unquoted b cs).count p := by
  induction h with
  | nil =>
    intro w words hsplit
    cases hsplit
    exact ⟨List.not_mem_nil, rfl⟩
  | @quote b before cs ds _ ih =>
    intro w words hsplit
    obtain ⟨w', words', hrest⟩ := List.exists_cons_of_ne_nil (splitBlanks_ne_nil (!b) ds)
    rw [splitBlanks, if_pos rfl, hrest] at hsplit
    cases hsplit
    exact ih hrest
  | @kept before c cs ds hc _ ih =>
    intro w words hsplit
    obtain ⟨w', words', hrest⟩ := List.exists_cons_of_ne_nil (splitBlanks_ne_nil true ds)
    rw [splitBlanks, if_neg hc, if_neg (by simp), hrest] at hsplit
    cases hsplit
    rw [unquoted_kept hc, unquoted_kept hc]
    exact ih hrest
  | @plain before c cs ds hc hlength _ ih =>
    intro w words hsplit
    obtain ⟨w', words', hrest⟩ := List.exists_cons_of_ne_nil (splitBlanks_ne_nil false ds)
    obtain ⟨hfirst, hcount⟩ := ih hrest
    have hne : c ≠ p := by
      rintro rfl
      rw [lexemeLength_paren hp] at hlength
      cases hlength
    rw [unquoted_plain hc, List.count_cons_of_ne hne, ← hcount]
    rw [splitBlanks, if_neg hc, hrest] at hsplit
    by_cases hblank : (isBlank c && !false) = true
    · rw [if_pos hblank] at hsplit
      cases hsplit
      rw [List.map_cons, List.count_cons_of_ne (trim_ne_paren hp hfirst)]
      exact ⟨List.not_mem_nil, rfl⟩
    · rw [if_neg hblank] at hsplit
      cases hsplit
      rw [unquoted_plain hc, List.mem_cons, not_or]
      exact ⟨⟨Ne.symm hne, hfirst⟩, rfl⟩
  | @lexeme before lex cs ds hne hlength _ ih =>
    intro w words hsplit
    obtain ⟨w', words', hrest⟩ := List.exists_cons_of_ne_nil (splitBlanks_ne_nil false ds)
    obtain ⟨hfirst, hcount⟩ := ih hrest
    have hlexeme := mem_lexemes_of_lexemeLength hne hlength
    obtain ⟨hsolid, hquote⟩ := solid_of_lexeme hne hlexeme
    rw [splitBlanks_lexeme hsolid, hrest] at hsplit
    cases hsplit
    refine ⟨List.not_mem_nil, ?_⟩
    rw [unquoted_append, unquoted_of_not_mem hquote, hsolid.closed, List.count_append, ← hcount,
      count_lexeme hp hlexeme, List.map_cons, List.map_cons, hsolid.trimmed, List.count_cons, List.count_cons_of_ne (trim_ne_paren hp hfirst), Nat.add_comm]
    simp

end

theorem ofText_ne_paren {cs : List Char} (hleft : cs ≠ ['(']) (hright : cs ≠ [')']) :
    TokenKind.ofText cs ≠ .lparen ∧ TokenKind.ofText cs ≠ .rparen := by
  rw [TokenKind.ofText, if_neg hleft, if_neg hright]
  split
  · simp
  · simp
  · split <;> simp

theorem ofText_eq_lparen_iff (cs : List Char) : TokenKind.ofText cs = .lparen ↔ cs = ['('] := by
  constructor
  · intro h
    by_cases hright : cs = [')']
    · subst hright
      cases h
    · by_contra hleft
      exact (ofText_ne_paren hleft hright).1 h
  · rintro rfl
    rfl

theorem ofText_eq_rparen_iff (cs : List Char) : TokenKind.ofText cs = .rparen ↔ cs = [')'] := by
  constructor
  · intro h
    by_cases hleft : cs = ['(']
    · subst hleft
      cases h
    · by_contra hright
      exact (ofText_ne_paren hleft hright).2 h
  · rintro rfl
    rfl

theorem countP_kind {kind : TokenKind} {p : Char} (hp : p = '(' ∨ p = ')')
    (hkind : ∀ cs, TokenKind.ofText cs = kind ↔ cs = [p]) (e : String) :
    (tokenize e).countP (·.kind = kind) = (unquoted false e.toList).count p := by
  obtain ⟨w, words, hwords⟩ := List.exists_cons_of_ne_nil (splitBlanks_ne_nil false (spaceOut false ' ' 0 e.toList))
  obtain ⟨hfirst, hcount⟩ := count_paren hp (padded_spaceOut false ' ' e.toList) hwords
  have htext : (fun t : Token => decide (t.kind = kind)) ∘ Token.ofText = (· == [p]) := by
    funext cs
    simp [Token.ofText, hkind, beq_eq_decide]
  calc
    (tokenize e).countP (·.kind = kind) = (texts (w :: words)).count [p] := by
      rw [tokenize_eq, hwords, List.countP_map, htext, List.count]
    _ = ((w :: words).map trim).count [p] := List.count_filter (by simp)
    _ = (unquoted false e.toList).count p := by
      rw [List.map_cons, List.count_cons_of_ne (trim_ne_paren hp hfirst), hcount]

/-! ## Quoted text -/

/-- The text `s` stands in the token at a position, between quotes; `p` is, blanks apart, what comes before it there and
in the tokens before. -/
def QuotedIn (tokens : List Token) (i : Nat) (p s : List Char) : Prop :=
  ∃ t x y, tokens[i]? = some t ∧ t.text = x ++ '\'' :: (s ++ '\'' :: y) ∧
    withoutBlanks ((tokens.take i).flatMap Token.text ++ x) = withoutBlanks p

section
variable {tokens : List Token} {i j : Nat} {p q r s : List Char} {e : String}

theorem QuotedIn.not_lt (hi : QuotedIn tokens i p s) (hj : QuotedIn tokens j p s) : ¬ i < j := by
  intro hlt
  obtain ⟨t, x, y, ht, htext, hbefore⟩ := hi
  obtain ⟨-, x', -, -, -, hbefore'⟩ := hj
  obtain ⟨more, hmore⟩ := List.take_prefix_take_left (l := tokens) (Nat.succ_le_of_lt hlt)
  -- the token at `i` holds a quote more than `p` does, and it comes before the one at `j`
  have hquote : withoutBlanks ('\'' :: (s ++ '\'' :: y)) = '\'' :: withoutBlanks (s ++ '\'' :: y) :=
    List.filter_cons_of_pos (by decide)
  have hlength := congrArg List.length hbefore
  have hlength' := congrArg List.length hbefore'
  rw [← hmore, List.take_add_one, ht] at hlength'
  simp only [withoutBlanks_append, List.length_append, List.flatMap_append, Option.toList_some, List.flatMap_cons,
    List.flatMap_nil, List.append_nil, htext, hquote, List.length_cons] at hlength hlength'
  omega

theorem QuotedIn.unique (hi : QuotedIn tokens i p s) (hj : QuotedIn tokens j p s) : i = j := by
  have hle := hj.not_lt hi
  have hge := hi.not_lt hj
  omega

theorem withoutBlanks_trimLeft (w : List Char) : withoutBlanks (trimLeft w) = withoutBlanks w := by
  obtain ⟨g, hg, hw, -⟩ := exists_trimLeft w
  calc
    withoutBlanks (trimLeft w) = withoutBlanks g ++ withoutBlanks (trimLeft w) := by
      rw [withoutBlanks_of_blank hg, List.nil_append]
    _ = withoutBlanks w := by rw [← withoutBlanks_append, ← hw]

/-- A quote that opens is in a token with all that follows it up to the next blank outside quotes. -/
theorem tokenize_quote (he : e.toList = p ++ '\'' :: r) (hp : Even (p.count '\'')) {u : List Char}
    {after : List (List Char)} (hu : splitBlanks false ('\'' :: spaceOut true '\'' 0 r) = ('\'' :: u) :: after) :
    ∃ before x, withoutBlanks (before.flatMap Token.text ++ x) = withoutBlanks p ∧
      tokenize e = before ++ Token.ofText (x ++ '\'' :: trimRight u) :: (texts after).map Token.ofText := by
  obtain ⟨before, x, hleft⟩ : ∃ before x, splitBlanks false (spaceOut false ' ' 0 p) = before ++ [x] :=
    ⟨_, _, (List.dropLast_concat_getLast (splitBlanks_ne_nil false _)).symm⟩
  have hclosed : inside false (spaceOut false ' ' 0 p) = false := by
    rw [inside_spaceOut, inside_eq, if_pos hp]
  have hspaced : spaceOut false ' ' 0 (p ++ '\'' :: r) = spaceOut false ' ' 0 p ++ '\'' :: spaceOut true '\'' 0 r := by
    rw [spaceOut_append separates_quote (Nat.zero_le _), inside_eq, if_pos hp, spaceOut_quote, Bool.not_false]
  have hwords : splitBlanks false (spaceOut false ' ' 0 (p ++ '\'' :: r)) = before ++ (x ++ '\'' :: u) :: after := by
    rw [hspaced, splitBlanks_append, hclosed, hu, hleft, glue_concat, foldr_onto]
  have hword : texts [x ++ '\'' :: u] = [trimLeft x ++ '\'' :: trimRight u] := by
    simp [texts, trim_quote]
  refine ⟨(texts before).map Token.ofText, trimLeft x, ?_, ?_⟩
  · calc
      withoutBlanks (((texts before).map Token.ofText).flatMap Token.text ++ trimLeft x)
        = withoutBlanks (before ++ [x]).flatten := by
          rw [flatMap_text, withoutBlanks_append, withoutBlanks_texts, withoutBlanks_trimLeft, ← withoutBlanks_append,
            List.flatten_append, List.flatten_singleton]
      _ = withoutBlanks p := by
          rw [← hleft, withoutBlanks_splitBlanks]
          exact filter_spaceOut
  · rw [tokenize_eq, he, hwords, texts_append, ← List.singleton_append (x := x ++ '\'' :: u), texts_append, hword,
      List.map_append, List.map_append]
    rfl

theorem exists_quotedIn (he : e.toList = p ++ '\'' :: (s ++ '\'' :: q)) (hp : Even (p.count '\'')) (hs : '\'' ∉ s) :
    ∃ i, QuotedIn (tokenize e) i p s := by
  obtain ⟨y, after, hright⟩ := List.exists_cons_of_ne_nil (splitBlanks_ne_nil false (spaceOut false '\'' 0 q))
  have hspaced : spaceOut true '\'' 0 (s ++ '\'' :: q) = s ++ '\'' :: spaceOut false '\'' 0 q := spaceOut_quoted hs
  have hu := splitBlanks_quoted hs hright
  rw [← hspaced] at hu
  obtain ⟨before, x, hbefore, htokens⟩ := tokenize_quote he hp hu
  rw [trimRight_quote] at htokens
  refine ⟨before.length, Token.ofText (x ++ '\'' :: (s ++ '\'' :: trimRight y)), x, trimRight y, ?_, rfl, ?_⟩
  · rw [htokens, List.getElem?_append_right (Nat.le_refl _), Nat.sub_self, List.getElem?_cons_zero]
  · rw [htokens, List.take_left]
    exact hbefore

theorem tokenize_open (he : e.toList = p ++ '\'' :: s) (hp : Even (p.count '\'')) (hs : '\'' ∉ s) :
    ∃ before t x, tokenize e = before ++ [t] ∧ t.text = x ++ '\'' :: trimRight s ∧
      withoutBlanks (before.flatMap Token.text ++ x) = withoutBlanks p := by
  have hkept : splitBlanks true s = [s] := splitBlanks_of_plain fun c hc => ⟨fun hquote => hs (hquote ▸ hc), rfl⟩
  have hu : splitBlanks false ('\'' :: spaceOut true '\'' 0 s) = ['\'' :: s] := by
    rw [spaceOut_open hs, splitBlanks, if_pos rfl, Bool.not_false, hkept]
    rfl
  obtain ⟨before, x, hbefore, htokens⟩ := tokenize_quote he hp hu
  exact ⟨before, _, x, htokens, rfl, hbefore⟩

end

/-- The tokens hold what the expression holds, blanks apart, and in its order. No token is empty or has a blank at its
ends, or outside quotes. What stands between two quotes is in one token as it is, and what stands behind a quote without
a partner ends the last token, but for the blanks at its end. Each parenthesis outside quotes is a token. -/
theorem tokenize_keeps_text (e : String) :
    withoutBlanks ((tokenize e).flatMap Token.text) = withoutBlanks e.toList ∧
    (∀ t ∈ tokenize e, t.text ≠ [] ∧ trim t.text = t.text ∧ ∀ c ∈ unquoted false t.text, isBlank c = false) ∧
    (∀ p s q, e.toList = p ++ '\'' :: (s ++ '\'' :: q) → Even (p.count '\'') → '\'' ∉ s →
      ∃! i, QuotedIn (tokenize e) i p s) ∧
    (∀ p s, e.toList = p ++ '\'' :: s → Even (p.count '\'') → '\'' ∉ s →
      ∃ before t x, tokenize e = before ++ [t] ∧ t.text = x ++ '\'' :: trimRight s ∧
        withoutBlanks (before.flatMap Token.text ++ x) = withoutBlanks p) ∧
    (tokenize e).countP (·.kind = .lparen) = (unquoted false e.toList).count '(' ∧
    (tokenize e).countP (·.kind = .rparen) = (unquoted false e.toList).count ')' := by
  refine ⟨?_, ?_, ?_, fun p s => tokenize_open, countP_kind (.inl rfl) ofText_eq_lparen_iff e,
    countP_kind (.inr rfl) ofText_eq_rparen_iff e⟩
  · rw [tokenize_eq, flatMap_text, withoutBlanks_texts, withoutBlanks_splitBlanks]
    exact filter_spaceOut
  · intro t ht
    rw [tokenize_eq] at ht
    obtain ⟨w, hw, rfl⟩ := List.mem_map.mp ht
    exact text_of_mem_texts hw
  · intro p s q he hp hs
    obtain ⟨i, hi⟩ := exists_quotedIn he hp hs
    exact ⟨i, hi, fun j hj => hj.unique hi⟩

/-- One quoted text with a parenthesis in it, and one that is not closed. -/
theorem tokenize_keeps_text_unclosed :
    let e := "a.b=='x  (y' or(c!='z) "
    (e.toList = "a.b==".toList ++ '\'' :: ("x  (y".toList ++ '\'' :: " or(c!='z) ".toList) ∧
      Even ("a.b==".toList.count '\'') ∧ '\'' ∉ "x  (y".toList ∧
      ∃! i, QuotedIn (tokenize e) i "a.b==".toList "x  (y".toList) ∧
    (e.toList = "a.b=='x  (y' or(c!=".toList ++ '\'' :: "z) ".toList ∧
      Even ("a.b=='x  (y' or(c!=".toList.count '\'') ∧ '\'' ∉ "z) ".toList ∧
      ∃ before t x, tokenize e = before ++ [t] ∧ t.text = x ++ '\'' :: "z)".toList ∧
        withoutBlanks (before.flatMap Token.text ++ x) = withoutBlanks "a.b=='x  (y' or(c!=".toList) := by
  intro e
  have h := tokenize_keeps_text e
  have hclosed : e.toList = "a.b==".toList ++ '\'' :: ("x  (y".toList ++ '\'' :: " or(c!='z) ".toList) := by decide
  have hopen : e.toList = "a.b=='x  (y' or(c!=".toList ++ '\'' :: "z) ".toList := by decide
  exact ⟨⟨hclosed, by decide, by decide, h.2.2.1 _ _ _ hclosed (by decide) (by decide)⟩,
    ⟨hopen, by decide, by decide, h.2.2.2.1 _ _ hopen (by decide) (by decide)⟩⟩

end DocStore.Query
