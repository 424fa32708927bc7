import DocStore.Proofs.Query.Spacing

/-!
# Quoted text stays text

What stands between two quotes is passed through by both passes over a query, and the token that it comes to be in is cut
out and classified by what stands around the quotes. So tokens before and after it, and its own kind, do not depend on
the quoted text (`quoted_text_stays_inside`).
-/

namespace DocStore.Query

open Text (isBlank trim trimLeft trimRight)

/-! ## The word around a quoted text -/

section
variable {p q : List Char}

theorem spaceOut_around (hp : Even (p.count '\'')) {s : List Char} (hs : '\'' ∉ s) :
    spaceOut false ' ' 0 (p ++ '\'' :: (s ++ '\'' :: q)) =
      spaceOut false ' ' 0 p ++ '\'' :: (s ++ '\'' :: spaceOut false '\'' 0 q) := by
  rw [spaceOut_append separates_quote (Nat.zero_le _), inside_eq, if_pos hp, spaceOut_quote]
  exact congrArg (fun r => _ ++ '\'' :: r) (spaceOut_quoted hs)

theorem splitBlanks_quoted {s y : List Char} (hs : '\'' ∉ s) {after : List (List Char)}
    (hq : splitBlanks false q = y :: after) :
    splitBlanks false ('\'' :: (s ++ '\'' :: q)) = ('\'' :: (s ++ '\'' :: y)) :: after := by
  have hkept : splitBlanks true s = [s] := splitBlanks_of_plain fun c hc => ⟨fun hquote => hs (hquote ▸ hc), rfl⟩
  have hclosing : splitBlanks true ('\'' :: q) = ('\'' :: y) :: after := by
    rw [splitBlanks, if_pos rfl, Bool.not_true, hq]; rfl
  rw [splitBlanks, if_pos rfl, Bool.not_false, splitBlanks_append, hkept, inside_of_not_mem hs, hclosing, glue, foldr_onto]
  rfl

theorem words_around (hp : inside false p = false) (q : List Char) :
    ∃ before after x y, ∀ s, '\'' ∉ s →
      splitBlanks false (p ++ '\'' :: (s ++ '\'' :: q)) = before ++ (x ++ '\'' :: (s ++ '\'' :: y)) :: after := by
  obtain ⟨before, x, hleft⟩ : ∃ before x, splitBlanks false p = before ++ [x] :=
    ⟨_, _, (List.dropLast_concat_getLast (splitBlanks_ne_nil false p)).symm⟩
  obtain ⟨y, after, hright⟩ := List.exists_cons_of_ne_nil (splitBlanks_ne_nil false q)
  refine ⟨before, after, x, y, fun s hs => ?_⟩
  rw [splitBlanks_append, hleft, hp, splitBlanks_quoted hs hright, glue_concat, foldr_onto]

end

/-! ## Trimming and kind -/

theorem trimRight_quote (s y : List Char) : trimRight (s ++ '\'' :: y) = s ++ '\'' :: trimRight y := by
  have hclosing : ∀ c ∈ (s ++ ['\'']).getLast?, isBlank c = false := by
    intro c hc
    rw [List.getLast?_concat] at hc
    cases hc
    decide
  have hsplit : s ++ '\'' :: y = (s ++ ['\'']) ++ y := by simp
  rw [hsplit, trimRight_append hclosing, List.append_assoc]
  rfl

theorem trim_quote (x y : List Char) : trim (x ++ '\'' :: y) = trimLeft x ++ '\'' :: trimRight y := by
  have hopening : ∀ c ∈ ('\'' :: y).head?, isBlank c = false := by
    intro c hc
    cases hc
    decide
  rw [trim, trimLeft_append hopening, trimRight_quote]

theorem trim_around (x s y : List Char) :
    trim (x ++ '\'' :: (s ++ '\'' :: y)) = trimLeft x ++ '\'' :: (s ++ '\'' :: trimRight y) := by
  rw [trim_quote, trimRight_quote]

theorem kind_of_quote {cs : List Char} (h : '\'' ∈ cs) :
    TokenKind.ofText cs = if cs.head? = some '\'' then .quoted else .ident := by
  have hlower : '\'' ∈ cs.map Char.toLower := List.mem_map.mpr ⟨'\'', h, by decide⟩
  have hkeyword : Keyword.ofText? cs = none := by
    refine List.find?_eq_none.mpr fun k _ hk => ?_
    rw [← of_decide_eq_true hk] at hlower
    revert hlower
    cases k <;> decide
  have hoperator : Operator.ofText? cs = none := by
    refine List.find?_eq_none.mpr fun op _ hop => ?_
    rw [← of_decide_eq_true hop] at hlower
    revert hlower
    cases op <;> decide
  unfold TokenKind.ofText
  rw [hkeyword, hoperator, if_neg, if_neg]
  · rintro rfl
    revert h; decide
  · rintro rfl
    revert h; decide

/-- The word with a quoted text in it, once trimmed, is a token whose kind is decided in front of the text. -/
theorem ofText_trim_around (x y : List Char) :
    ∃ kind, (kind = TokenKind.quoted ∨ kind = TokenKind.ident) ∧
      ∀ s, Token.ofText (trim (x ++ '\'' :: (s ++ '\'' :: y))) =
        ⟨kind, trimLeft x ++ '\'' :: (s ++ '\'' :: trimRight y)⟩ := by
  have hhead : ∀ s, (trimLeft x ++ '\'' :: (s ++ '\'' :: trimRight y)).head? = (trimLeft x ++ ['\'']).head? := by
    intro s
    cases trimLeft x <;> rfl
  refine ⟨if (trimLeft x ++ ['\'']).head? = some '\'' then .quoted else .ident, ?_, fun s => ?_⟩
  · split
    · exact .inl rfl
    · exact .inr rfl
  · rw [trim_around, Token.ofText, kind_of_quote (by simp), hhead]

/-- Whatever stands between the quotes, the tokens are the same but for that text in one of them, which is no keyword,
operator or parenthesis. -/
theorem quoted_text_stays_inside (p q : String) (hp : Even (p.toList.count '\'')) :
    ∃ (before after : List Token) (kind : TokenKind) (x y : List Char), (kind = .quoted ∨ kind = .ident) ∧
      ∀ s : String, '\'' ∉ s.toList →
        tokenize (p ++ "'" ++ s ++ "'" ++ q) = before ++ ⟨kind, x ++ '\'' :: (s.toList ++ '\'' :: y)⟩ :: after := by
  have hinside : inside false (spaceOut false ' ' 0 p.toList) = false := by rw [inside_spaceOut, inside_eq, if_pos hp]
  obtain ⟨before, after, x, y, hwords⟩ := words_around hinside (spaceOut false '\'' 0 q.toList)
  obtain ⟨kind, hkind, htoken⟩ := ofText_trim_around x y
  refine ⟨((before.map trim).filter (· ≠ [])).map Token.ofText, ((after.map trim).filter (· ≠ [])).map Token.ofText, kind,
    trimLeft x, trimRight y, hkind, fun s hs => ?_⟩
  have hchars : (p ++ "'" ++ s ++ "'" ++ q).toList = p.toList ++ '\'' :: (s.toList ++ '\'' :: q.toList) := by simp
  have hsolid : trim (x ++ '\'' :: (s.toList ++ '\'' :: y)) ≠ [] := by simp [trim_around]
  rw [tokenize, hchars, tokenizeChars_eq, spaceOut_around hp hs, cut, hwords s.toList hs]
  simp [hsolid, htoken]

/-- A value that looks like the rest of a query opens and closes no group. -/
theorem quoted_text_stays_inside_alternative :
    (tokenize ("a == 1 or (b ==n" ++ "'" ++ ") or (x == 1" ++ "'" ++ ".c) and d'e'")).map Token.kind =
      (tokenize ("a == 1 or (b ==n" ++ "'" ++ "" ++ "'" ++ ".c) and d'e'")).map Token.kind := by
  obtain ⟨before, after, kind, x, y, -, htokens⟩ :=
    quoted_text_stays_inside "a == 1 or (b ==n" ".c) and d'e'" (by decide)
  rw [htokens ") or (x == 1" (by decide), htokens "" (by decide), List.map_append, List.map_append]
  rfl

end DocStore.Query
