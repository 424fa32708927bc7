import DocStore.Proofs.Double.Special
import DocStore.Proofs.Query.Grammar
import DocStore.Proofs.Query.Literals
import DocStore.Proofs.Query.Single
import Mathlib.Data.List.Basic

/-!
# What a literal selects

Every integer has a literal that only it is equal to, and so has every text without a quote (`literal_selects`). Words of
letters need no quotes, whatever blanks part them: they denote the text of the words with one space between, unless that
is the name of a double that has no digits (`words_select`).
-/

namespace DocStore.Query

open Text (isBlank trim)

section
variable {path : String}

theorem equals_text (path literal : String) :
    path ++ " == " ++ literal = path ++ " " ++ String.ofList Operator.eq.symbol ++ " " ++ literal := by
  apply String.toList_injective
  simp [Operator.symbol]

/-! ## Integers and quoted texts -/

/-- An integer in decimal is equal to that integer only, and a text in quotes to that text only. -/
theorem literal_selects (hpath : Nameable path) (maxDepth : Nat) (record : Record) :
    (∀ n : Int64, (ofExpression maxDepth (path ++ " == " ++ String.ofList (Decimal.ofInt n.toInt))).accepts record = true ↔
      resolve record path = some (.int n)) ∧
    (∀ s : String, '\'' ∉ s.toList →
      ((ofExpression maxDepth (path ++ " == '" ++ s ++ "'")).accepts record = true ↔
        resolve record path = some (.str s))) := by
  constructor
  · intro n
    have hread : Decimal.readInt? (Decimal.ofInt n.toInt) = some n := readInt?_ofInt n
    have hname : IsName (Decimal.ofInt n.toInt) := isName_of_readInt? hread
    rw [equals_text, accepts_condition_one hpath .eq (.name hname) rfl, coerceChars_of_readInt? hread]
    exact holdsAt_int_iff
  · intro s hs
    have htext : path ++ " == '" ++ s ++ "'" = path ++ " == " ++ String.ofList ('\'' :: (s.toList ++ ['\''])) := by
      apply String.toList_injective
      simp
    rw [htext, equals_text, accepts_condition_one hpath .eq (.quoted hs) rfl, coerceChars_quoted, String.ofList_toList]
    exact holdsAt_str_iff

/-- The least integer and a quoted date. -/
theorem literal_selects_least :
    Nameable "a.b" ∧ '\'' ∉ " 2025-08-01 ".toList ∧
      (ofExpression defaultMaxDepth "a.b == -9223372036854775808").accepts
        (.ofList [("a", .object [("b", .int Int64.minValue)])]) = true ∧
      (ofExpression defaultMaxDepth "a.b == ' 2025-08-01 '").accepts
        (.ofList [("a", .object [("b", .str " 2025-08-01 ")])]) = true := by
  have hpath : Nameable "a.b" := by decide
  have hquote : '\'' ∉ " 2025-08-01 ".toList := by decide
  have htext : "a.b == -9223372036854775808" = "a.b" ++ " == " ++ String.ofList (Decimal.ofInt Int64.minValue.toInt) := by
    decide +kernel
  refine ⟨hpath, hquote, ?_, (literal_selects hpath _ _).2 " 2025-08-01 " hquote |>.mpr rfl⟩
  rw [htext]
  exact (literal_selects hpath _ _).1 Int64.minValue |>.mpr rfl

/-! ## Words -/

structure IsPlainWord (w : String) : Prop where
  ne_empty : w ≠ ""
  letters : ∀ c ∈ w.toList, c.isAlpha = true
  no_contains : ¬ Operator.contains.symbol <:+: w.toList.map Char.toLower
  no_keyword : ∀ k ∈ Keyword.all, w.toList.map Char.toLower ≠ k.word

instance (w : String) : Decidable (IsPlainWord w) :=
  decidable_of_iff
    (w ≠ "" ∧ (∀ c ∈ w.toList, c.isAlpha = true) ∧ (¬ Operator.contains.symbol <:+: w.toList.map Char.toLower) ∧
      ∀ k ∈ Keyword.all, w.toList.map Char.toLower ≠ k.word)
    ⟨fun ⟨hne, hletters, hcontains, hkeyword⟩ => ⟨hne, hletters, hcontains, hkeyword⟩,
      fun ⟨hne, hletters, hcontains, hkeyword⟩ => ⟨hne, hletters, hcontains, hkeyword⟩⟩

theorem isWordLetter_of_isAlpha {c : Char} (hc : c.isAlpha = true) : isWordLetter c = true := by
  simp [isWordLetter, Char.isAlphanum, hc]

theorem IsPlainWord.isName {w : String} (h : IsPlainWord w) : IsName w.toList where
  ne_nil hnil := h.ne_empty (String.toList_eq_nil_iff.mp hnil)
  letters c hc := by simp [isNameLetter, isWordLetter_of_isAlpha (h.letters c hc)]
  no_contains := h.no_contains
  no_keyword run hrun := by
    rw [List.splitOnP_eq_singleton fun c hc => by simp [isWordLetter_of_isAlpha (h.letters c hc)],
      List.mem_singleton] at hrun
    exact hrun ▸ h.no_keyword

structure PlainWords (words : List (String × String)) : Prop where
  ne_nil : words ≠ []
  word : ∀ e ∈ words, IsPlainWord e.1
  blank : ∀ e ∈ words, ∀ c ∈ e.2.toList, isBlank c = true
  apart : words.IsChain fun e _ => e.2 ≠ ""

instance (words : List (String × String)) : Decidable (PlainWords words) :=
  decidable_of_iff
    (words ≠ [] ∧ (∀ e ∈ words, IsPlainWord e.1) ∧ (∀ e ∈ words, ∀ c ∈ e.2.toList, isBlank c = true) ∧
      words.IsChain fun e _ => e.2 ≠ "")
    ⟨fun ⟨hne, hword, hblank, hapart⟩ => ⟨hne, hword, hblank, hapart⟩,
      fun ⟨hne, hword, hblank, hapart⟩ => ⟨hne, hword, hblank, hapart⟩⟩

section
variable {ts : List Token}

theorem head?_joinTexts (h : ∀ t ∈ ts, t.text ≠ []) : (joinTexts ts).head? = ts.head?.bind fun t => t.text.head? := by
  cases ts with
  | nil => rfl
  | cons t ts =>
    obtain ⟨c, cs, hc⟩ := List.exists_cons_of_ne_nil (h t List.mem_cons_self)
    cases ts <;> simp [joinTexts, hc]

theorem getLast?_joinTexts (h : ∀ t ∈ ts, t.text ≠ []) :
    (joinTexts ts).getLast? = ts.getLast?.bind fun t => t.text.getLast? := by
  induction ts with
  | nil => rfl
  | cons t ts ih =>
    cases ts with
    | nil => rfl
    | cons u us =>
      have hrest : ∀ v ∈ u :: us, v.text ≠ [] := fun v hv => h v (List.mem_cons_of_mem t hv)
      have hne : joinTexts (u :: us) ≠ [] := by
        intro hnil
        have hhead := head?_joinTexts hrest
        rw [hnil] at hhead
        exact hrest u List.mem_cons_self (List.head?_eq_none_iff.mp hhead.symm)
      have hjoined : joinTexts (t :: u :: us) = (t.text ++ [' ']) ++ joinTexts (u :: us) := by simp [joinTexts]
      rw [hjoined, List.getLast?_append_of_ne_nil _ hne, ih hrest, List.getLast?_cons_cons]

end

section
variable {words : List (String × String)}

def joined (words : List (String × String)) : String :=
  " ".intercalate (words.map Prod.fst)

def typed (words : List (String × String)) : String :=
  String.join (words.map fun e => e.1 ++ e.2)

def wordTokens (words : List (String × String)) : List (Token × List Char) :=
  words.map fun e => (⟨.ident, e.1.toList⟩, e.2.toList)

theorem forall_mem_wordTokens {P : Token × List Char → Prop} :
    (∀ e ∈ wordTokens words, P e) ↔ ∀ e ∈ words, P (⟨.ident, e.1.toList⟩, e.2.toList) :=
  List.forall_mem_map

theorem joinTexts_wordTokens (words : List (String × String)) :
    joinTexts ((wordTokens words).map Prod.fst) = (joined words).toList := by
  simp [joinTexts_eq, wordTokens, joined, Function.comp_def]

theorem typed_eq (words : List (String × String)) : typed words = String.ofList (written (wordTokens words)) := by
  apply String.toList_injective
  simp [typed, wordTokens, written, List.flatMap_map]

theorem PlainWords.spaced (h : PlainWords words) : Spaced (wordTokens words) where
  legible := forall_mem_wordTokens.mpr fun e he => .name (h.word e he).isName
  blank := forall_mem_wordTokens.mpr h.blank
  apart := by
    refine (List.isChain_map _).mpr (h.apart.imp fun e f hgap => .inl ?_)
    exact fun hnil => hgap (String.toList_eq_nil_iff.mp hnil)

/-- The text of words begins and ends with a letter. -/
theorem PlainWords.ends (h : PlainWords words) :
    (∃ c cs, (joined words).toList = c :: cs ∧ c.isAlpha = true) ∧ trim (joined words).toList = (joined words).toList := by
  have hword : ∀ t ∈ (wordTokens words).map Prod.fst, t.text ≠ [] ∧ ∀ c ∈ t.text, c.isAlpha = true :=
    List.forall_mem_map.mpr <| forall_mem_wordTokens.mpr fun e he => ⟨(h.word e he).isName.ne_nil, (h.word e he).letters⟩
  have hne : ∀ t ∈ (wordTokens words).map Prod.fst, t.text ≠ [] := fun t ht => (hword t ht).1
  have hhead : ∀ c ∈ (joined words).toList.head?, c.isAlpha = true := by
    rw [← joinTexts_wordTokens, head?_joinTexts hne]
    intro c hc
    obtain ⟨t, ht, hc⟩ := Option.mem_bind_iff.mp hc
    exact (hword t (List.mem_of_head? ht)).2 c (List.mem_of_head? hc)
  have hlast : ∀ c ∈ (joined words).toList.getLast?, c.isAlpha = true := by
    rw [← joinTexts_wordTokens, getLast?_joinTexts hne]
    intro c hc
    obtain ⟨t, ht, hc⟩ := Option.mem_bind_iff.mp hc
    exact (hword t (List.mem_of_getLast? ht)).2 c (List.mem_of_getLast? hc)
  refine ⟨?_, trim_eq_self (fun c hc => (plain_of_isAlpha (hhead c hc)).1) fun c hc => (plain_of_isAlpha (hlast c hc)).1⟩
  have htext : (joined words).toList ≠ [] := by
    intro hnil
    have hfirst := head?_joinTexts hne
    rw [joinTexts_wordTokens, hnil] at hfirst
    obtain ⟨e, rest, rfl⟩ := List.exists_cons_of_ne_nil h.ne_nil
    exact (h.word e List.mem_cons_self).isName.ne_nil (List.head?_eq_none_iff.mp hfirst.symm)
  obtain ⟨c, cs, hcs⟩ := List.exists_cons_of_ne_nil htext
  exact ⟨c, cs, hcs, hhead c (by rw [hcs]; rfl)⟩

theorem coerceChars_words (h : PlainWords words) :
    coerceChars (joined words).toList =
      ((floatWord? ((joined words).toList.map Char.toLower)).map Value.float).getD (.str (joined words)) := by
  obtain ⟨⟨c, cs, hcs, hc⟩, htrimmed⟩ := h.ends
  rw [hcs] at htrimmed ⊢
  rw [coerceChars_letters htrimmed hc, ← hcs, String.ofList_toList]

theorem holdsAt_infinity_iff {record : Record} :
    holdsAt record path .eq (.float Decimal.infinity) = true ↔ resolve record path = some (.float Decimal.infinity) := by
  refine holdsAt_eq_iff fun v => ?_
  rw [satisfies_eq_same (by simp)]
  cases v with
  | float x => rw [Value.same, Double.same_infinity_iff, Value.float.injEq]
  | _ => simp [Value.same]

theorem holdsAt_nan (record : Record) : holdsAt record path .eq (.float (0.0 / 0.0)) = false := by
  rw [holdsAt, ← Bool.not_eq_true, Option.any_eq_true]
  rintro ⟨v, -, hv⟩
  rw [satisfies_eq_same (by simp)] at hv
  cases v with
  | float x =>
    rw [Value.same, Double.same_nan] at hv
    cases hv
  | _ => simp [Value.same] at hv

/-- Words without quotes are equal to the text of the words with one space between, if that is not the name of a double. -/
theorem words_select (hpath : Nameable path) (h : PlainWords words) (maxDepth : Nat) (record : Record) :
    ((joined words).toList.map Char.toLower ∉ ["inf".toList, "infinity".toList, "nan".toList] →
      ((ofExpression maxDepth (path ++ " == " ++ typed words)).accepts record = true ↔
        resolve record path = some (.str (joined words)))) ∧
    ((joined words).toList.map Char.toLower ∈ ["inf".toList, "infinity".toList] →
      ((ofExpression maxDepth (path ++ " == " ++ typed words)).accepts record = true ↔
        resolve record path = some (.float Decimal.infinity))) ∧
    ((joined words).toList.map Char.toLower = "nan".toList →
      (ofExpression maxDepth (path ++ " == " ++ typed words)).accepts record = false) := by
  have hne : wordTokens words ≠ [] := by simpa [wordTokens] using h.ne_nil
  have hvalues : ∀ e ∈ wordTokens words, e.1.isBoundary = false := forall_mem_wordTokens.mpr fun _ _ => rfl
  rw [equals_text, typed_eq, accepts_condition hpath .eq h.spaced hne hvalues, joinTexts_wordTokens, coerceChars_words h]
  generalize (joined words).toList.map Char.toLower = word
  refine ⟨fun hword => ?_, fun hword => ?_, fun hword => ?_⟩
  · simp only [List.mem_cons, List.not_mem_nil, or_false, not_or] at hword
    have hnone : floatWord? word = none := by
      rw [floatWord?, if_neg (by simp only [hword, or_self, not_false_eq_true]), if_neg hword.2.2]
    rw [hnone]
    exact holdsAt_str_iff
  · simp only [List.mem_cons, List.not_mem_nil, or_false] at hword
    rw [floatWord?, if_pos hword]
    exact holdsAt_infinity_iff
  · rw [hword]
    exact holdsAt_nan record

/-- A text that has a keyword inside it, with a line break between the words. -/
theorem words_select_android :
    Nameable "name" ∧ PlainWords [("Android", "\n\t"), ("Infinity", " ")] ∧
      (ofExpression defaultMaxDepth "name == Android\n\tInfinity ").accepts
        (.ofList [("name", .str "Android Infinity")]) = true := by
  have hpath : Nameable "name" := by decide
  have hwords : PlainWords [("Android", "\n\t"), ("Infinity", " ")] := by decide
  exact ⟨hpath, hwords, (words_select hpath hwords _ _).1 (by decide) |>.mpr rfl⟩

/-- A text that is the name of a double is not denoted by that word. -/
theorem nan_not_selected :
    Nameable "f" ∧ PlainWords [("nan", "")] ∧
      ¬ ((ofExpression defaultMaxDepth "f == nan").accepts (.ofList [("f", .str "nan")]) = true ↔
        resolve (.ofList [("f", .str "nan")]) "f" = some (.str "nan")) := by
  have hrejected : (ofExpression defaultMaxDepth "f == nan").accepts (.ofList [("f", .str "nan")]) = false := by
    decide +kernel
  have hstored : resolve (.ofList [("f", .str "nan")]) "f" = some (.str "nan") := rfl
  refine ⟨by decide, by decide, fun h => ?_⟩
  rw [hrejected] at h
  exact absurd (h.mpr hstored) Bool.false_ne_true

end

end

end DocStore.Query
