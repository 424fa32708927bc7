import DocStore.Proofs.Query.Rendering
import DocStore.Query.Literal

/-!
# What literals denote

Text in quotes denotes itself without them. Any other text denotes the first of an integer, a double and a timestamp that
it reads as, and else itself (`coerceChars_eq`). Text that begins with a letter reads as none of the three, unless it is
the name of a double that has no digits (`coerceChars_letters`).
-/

namespace DocStore.Query

open Text (isBlank trim trimLeft)

section
variable {cs : List Char}

theorem coerceChars_eq (htrimmed : trim cs = cs) (hquote : cs.head? ≠ some '\'') :
    coerceChars cs = ((Decimal.readInt? cs).map Value.int |>.or <| (Decimal.readFloat? cs).map Value.float |>.or <|
      (Time.Timestamp.read? cs).map Value.time).getD (.str (String.ofList cs)) := by
  have hquoted : isQuoted cs = false := by simp [isQuoted, hquote]
  rw [coerceChars, htrimmed, hquoted]
  cases Decimal.readInt? cs <;> cases Decimal.readFloat? cs <;> cases Time.Timestamp.read? cs <;> rfl

/-! ## Quoted text -/

theorem coerceChars_quoted (s : List Char) : coerceChars ('\'' :: (s ++ ['\''])) = .str (String.ofList s) := by
  have htrimmed : trim ('\'' :: (s ++ ['\''])) = '\'' :: (s ++ ['\'']) := trim_around [] s []
  have hquoted : isQuoted ('\'' :: (s ++ ['\''])) = true := by
    have hlast : ('\'' :: (s ++ ['\''])).getLast? = some '\'' := List.getLast?_concat (l := '\'' :: s)
    simp [isQuoted, hlast]
  rw [coerceChars, htrimmed, hquoted]
  simp

/-! ## Text that begins with a letter -/

variable {c : Char}

theorem plain_of_isAlpha (hc : c.isAlpha = true) : isBlank c = false ∧ Decimal.isDigit c = false ∧ c ∉ ['-', '+', '.', '\''] := by
  have hascii : c.toNat < 128 := ascii_of_isAlphanum (by simp [Char.isAlphanum, hc])
  exact of_ascii
    (P := fun c => c.isAlpha = true → isBlank c = false ∧ Decimal.isDigit c = false ∧ c ∉ ['-', '+', '.', '\''])
    (by decide +kernel) hascii hc

theorem signed_of_isAlpha (hc : c.isAlpha = true) : Decimal.signed (c :: cs) = (false, c :: cs) := by
  obtain ⟨-, -, hsign⟩ := plain_of_isAlpha hc
  unfold Decimal.signed
  split
  · rename_i h
    cases h
    simp at hsign
  · rename_i h
    cases h
    simp at hsign
  · rfl

theorem readInt?_of_isAlpha (hc : c.isAlpha = true) : Decimal.readInt? (c :: cs) = none := by
  rw [Decimal.readInt?, signed_of_isAlpha hc]
  simp [(plain_of_isAlpha hc).2.1]

def floatWord? (word : List Char) : Option Float :=
  if word = "inf".toList ∨ word = "infinity".toList then some Decimal.infinity
  else if word = "nan".toList then some (0.0 / 0.0)
  else none

theorem readFloat?_of_isAlpha (hc : c.isAlpha = true) :
    Decimal.readFloat? (c :: cs) = floatWord? ((c :: cs).map Char.toLower) := by
  obtain ⟨-, hdigit, hpoint⟩ := plain_of_isAlpha hc
  have hdot : c ≠ '.' := by
    rintro rfl
    simp at hpoint
  have hmagnitude : Decimal.readMagnitude? (c :: cs) = floatWord? ((c :: cs).map Char.toLower) := by
    rw [Decimal.readMagnitude?, floatWord?]
    generalize (c :: cs).map Char.toLower = word
    dsimp only
    split
    · rfl
    split
    · rfl
    · simp [hdigit, hdot]
  rw [Decimal.readFloat?, signed_of_isAlpha hc]
  simp [hmagnitude]

theorem date_isPrefix_of_mem_lenient {p : Time.Pattern} (h : p ∈ Time.Pattern.lenient) : Time.Pattern.date false <+: p := by
  revert p; decide

theorem takeLenient_of_isAlpha (hc : c.isAlpha = true) : Time.takeLenient .year (c :: cs) = none := by
  obtain ⟨hblank, hdigit, hsign⟩ := plain_of_isAlpha hc
  simp only [List.mem_cons, not_or] at hsign
  have htrimmed : trimLeft (c :: cs) = c :: cs := by simp [trimLeft, hblank]
  unfold Time.takeLenient
  dsimp only
  rw [htrimmed]
  split
  · rename_i h
    cases h
    exact absurd rfl hsign.1
  · rename_i h
    cases h
    exact absurd rfl hsign.2.1
  · simp [Time.leadingDigits, Time.Field.width, hdigit]

theorem timestamp?_of_takeLenient {p : Time.Pattern} (hp : Time.Pattern.date false <+: p)
    (h : Time.takeLenient .year cs = none) : p.timestamp? cs = none := by
  obtain ⟨tail, rfl⟩ := hp
  simp [Time.Pattern.timestamp?, Time.Pattern.date, Time.Pattern.read, Time.Part.read, h]

/-- Only a final `z` on its own is taken for an offset, and an offset is no date. -/
theorem read?_of_isAlpha (htrimmed : trim (c :: cs) = c :: cs) (hc : c.isAlpha = true) :
    Time.Timestamp.read? (c :: cs) = none := by
  have hdigit : Decimal.isDigit c = false := (plain_of_isAlpha hc).2.1
  have hinternet : Time.Pattern.internet.timestamp? (c :: cs) = none := by
    simp [Time.Pattern.timestamp?, Time.Pattern.internet, Time.Pattern.date, Time.Pattern.read, Time.Part.read,
      Time.takeStrict, Time.leadingDigits, Time.Field.width, hdigit]
  have hlenient : ∀ p ∈ Time.Pattern.lenient, p.timestamp? (Time.withOffset (c :: cs)) = none := by
    intro p hp
    have hdate := date_isPrefix_of_mem_lenient hp
    cases cs with
    | nil =>
      unfold Time.withOffset
      dsimp only [List.getLast?_singleton]
      split
      · exact (by decide +kernel : ∀ p ∈ Time.Pattern.lenient, p.timestamp? "+00:00".toList = none) p hp
      · exact timestamp?_of_takeLenient hdate (takeLenient_of_isAlpha hc)
    | cons d cs =>
      refine timestamp?_of_takeLenient hdate ?_
      unfold Time.withOffset
      split
      · exact takeLenient_of_isAlpha hc
      split <;> exact takeLenient_of_isAlpha hc
  rw [Time.Timestamp.read?, htrimmed, hinternet, Option.none_or]
  exact List.findSome?_eq_none_iff.mpr hlenient

theorem coerceChars_letters (htrimmed : trim (c :: cs) = c :: cs) (hc : c.isAlpha = true) :
    coerceChars (c :: cs) =
      ((floatWord? ((c :: cs).map Char.toLower)).map Value.float).getD (.str (String.ofList (c :: cs))) := by
  obtain ⟨-, -, hquote⟩ := plain_of_isAlpha hc
  have hhead : (c :: cs).head? ≠ some '\'' := by
    intro h
    cases h
    simp at hquote
  rw [coerceChars_eq htrimmed hhead, readInt?_of_isAlpha hc, readFloat?_of_isAlpha hc, read?_of_isAlpha htrimmed hc]
  cases floatWord? ((c :: cs).map Char.toLower) <;> rfl

end

/-! ## Integers -/

theorem letter_of_isDigit {c : Char} (h : Decimal.isDigit c = true) : isNameLetter c = true ∧ c.toLower.isLower = false := by
  have hdigit : c.isDigit = true := h
  have hascii : c.toNat < 128 := ascii_of_isAlphanum (by simp [Char.isAlphanum, hdigit])
  exact of_ascii (P := fun c => Decimal.isDigit c = true → isNameLetter c = true ∧ c.toLower.isLower = false)
    (by decide +kernel) hascii h

structure Numeral where
  sign : List Char
  digits : List Char
  sign_mem : sign ∈ [[], ['+'], ['-']]
  ne_nil : digits ≠ []
  isDigit : ∀ d ∈ digits, Decimal.isDigit d = true

namespace Numeral

variable (t : Numeral)

def text : List Char :=
  t.sign ++ t.digits

def value : Int :=
  if t.sign = ['-'] then -(Decimal.valueOf t.digits : Int) else Decimal.valueOf t.digits

def ofInt (i : Int) : Numeral where
  sign := if i < 0 then ['-'] else []
  digits := Decimal.digitsOf i.natAbs
  sign_mem := by split <;> decide
  ne_nil := Decimal.digitsOf_ne_nil _
  isDigit _ := Decimal.isDigit_of_mem_digitsOf

@[simp] theorem text_ofInt (i : Int) : (ofInt i).text = Decimal.ofInt i := by
  unfold text ofInt Decimal.ofInt
  split <;> rfl

@[simp] theorem value_ofInt (i : Int) : (ofInt i).value = i := by
  have hdigits : Decimal.valueOf (ofInt i).digits = i.natAbs := Decimal.valueOf_digitsOf _
  rw [value, hdigits]
  rcases Int.lt_or_le i 0 with h | h
  · have hsign : (ofInt i).sign = ['-'] := if_pos h
    rw [if_pos hsign]
    omega
  · have hsign : (ofInt i).sign = [] := if_neg (Int.not_lt.mpr h)
    rw [hsign, if_neg (by decide)]
    omega

theorem signed_text : Decimal.signed t.text = (decide (t.sign = ['-']), t.digits) := by
  obtain ⟨d, ds, hdigits⟩ := List.exists_cons_of_ne_nil t.ne_nil
  have hd : Decimal.isDigit d = true := t.isDigit d (by simp [hdigits])
  have hsign := t.sign_mem
  simp only [List.mem_cons, List.not_mem_nil, or_false] at hsign
  rcases hsign with hsign | hsign | hsign
  · rw [text, hsign, hdigits, List.nil_append]
    unfold Decimal.signed
    split
    · rename_i h
      cases h
      exact absurd hd (by decide)
    · rename_i h
      cases h
      exact absurd hd (by decide)
    · rfl
  · rw [text, hsign]
    rfl
  · rw [text, hsign]
    rfl

theorem readInt?_text : Decimal.readInt? t.text =
    if Int64.minValue.toInt ≤ t.value ∧ t.value ≤ Int64.maxValue.toInt then some (Int64.ofInt t.value) else none := by
  have hdigits : t.digits ≠ [] ∧ t.digits.all Decimal.isDigit = true := ⟨t.ne_nil, List.all_eq_true.mpr t.isDigit⟩
  rw [Decimal.readInt?, signed_text]
  dsimp only
  rw [if_pos hdigits, value]
  by_cases hminus : t.sign = ['-'] <;> simp [hminus]

def nearest : Float :=
  if t.sign = ['-'] then -Decimal.nearest (Decimal.valueOf t.digits) 0 else Decimal.nearest (Decimal.valueOf t.digits) 0

theorem readFloat?_text : Decimal.readFloat? t.text = some t.nearest := by
  have hword : ∀ word ∈ ["inf".toList, "infinity".toList, "nan".toList], t.digits.map Char.toLower ≠ word := by
    intro word hword hmap
    obtain ⟨d, hd⟩ := List.exists_mem_of_ne_nil t.digits t.ne_nil
    have hlower : ∀ w ∈ ["inf".toList, "infinity".toList, "nan".toList], ∀ c ∈ w, c.isLower = true := by decide
    have hletter := hlower word hword d.toLower (hmap ▸ List.mem_map_of_mem hd)
    rw [(letter_of_isDigit (t.isDigit d hd)).2] at hletter
    cases hletter
  simp only [List.forall_mem_cons] at hword
  obtain ⟨hinf, hinfinity, hnan, -⟩ := hword
  have hwhole : t.digits.takeWhile Decimal.isDigit = t.digits := List.takeWhile_eq_self_iff.mpr t.isDigit
  have hrest : t.digits.dropWhile Decimal.isDigit = [] := List.dropWhile_eq_nil_iff.mpr t.isDigit
  have hmagnitude : Decimal.readMagnitude? t.digits = some (Decimal.nearest (Decimal.valueOf t.digits) 0) := by
    rw [Decimal.readMagnitude?]
    dsimp only
    rw [if_neg (by simp only [hinf, hinfinity, or_self, not_false_eq_true]), if_neg hnan, hwhole, hrest]
    simp [t.ne_nil, Decimal.readPower?]
  rw [Decimal.readFloat?, signed_text, nearest]
  simp [hmagnitude]

theorem digit_or_sign_of_mem_text : ∀ c ∈ t.text, Decimal.isDigit c = true ∨ c = '-' ∨ c = '+' := by
  intro c hc
  rcases List.mem_append.mp hc with hsign | hdigit
  · have hallowed : ∀ sign ∈ [[], ['+'], ['-']], ∀ c ∈ sign, c = '-' ∨ c = '+' := by decide
    exact .inr (hallowed t.sign t.sign_mem c hsign)
  · exact .inl (t.isDigit c hdigit)

theorem isName_text : IsName t.text := by
  have hletter : ∀ c ∈ t.text, isNameLetter c = true ∧ c.toLower.isLower = false := by
    intro c hc
    rcases t.digit_or_sign_of_mem_text c hc with hdigit | rfl | rfl
    · exact letter_of_isDigit hdigit
    · decide
    · decide
  -- lexemes have small letters in them
  have hlower : ∀ run word : List Char, (∀ c ∈ run, c ∈ t.text) → (∃ d ∈ word, d.isLower = true) →
      run.map Char.toLower ≠ word := by
    rintro run _ hrun ⟨d, hd, hlower⟩ rfl
    obtain ⟨c, hc, rfl⟩ := List.mem_map.mp hd
    rw [(hletter c (hrun c hc)).2] at hlower
    cases hlower
  refine ⟨by simp [text, t.ne_nil], fun c hc => (hletter c hc).1, ?_, ?_⟩
  · intro hcontains
    obtain ⟨run, hrun, hmap⟩ := List.infix_map_iff.mp hcontains
    exact hlower run _ (fun c hc => hrun.subset hc) ⟨'c', List.mem_cons_self, rfl⟩ hmap.symm
  · intro run hrun k _
    obtain ⟨d, hd⟩ := List.exists_mem_of_ne_nil k.word (by cases k <;> decide)
    exact hlower run k.word (mem_of_mem_splitOnP hrun) ⟨d, hd, isLower_of_mem_word hd⟩

theorem coerceChars_text :
    coerceChars t.text = ((Decimal.readInt? t.text).map Value.int).getD (.float t.nearest) := by
  have hname : IsName t.text := t.isName_text
  have htrimmed : trim t.text = t.text := (Token.Legible.name hname).solid.trimmed
  have hquote : t.text.head? ≠ some '\'' := fun h => quote_not_mem hname.letters (List.mem_of_head? h)
  rw [coerceChars_eq htrimmed hquote, t.readFloat?_text]
  cases Decimal.readInt? t.text <;> rfl

end Numeral

section
variable {cs : List Char} {n : Int64}

theorem exists_numeral_of_readInt? (h : Decimal.readInt? cs = some n) : ∃ t : Numeral, t.text = cs := by
  obtain ⟨negative, ds, hsigned⟩ : ∃ negative ds, Decimal.signed cs = (negative, ds) := ⟨_, _, rfl⟩
  obtain ⟨hne, hdigits⟩ : ds ≠ [] ∧ ds.all Decimal.isDigit = true := by
    rw [Decimal.readInt?, hsigned] at h
    dsimp only at h
    split at h
    · assumption
    · cases h
  have hdigit : ∀ d ∈ ds, Decimal.isDigit d = true := List.all_eq_true.mp hdigits
  unfold Decimal.signed at hsigned
  split at hsigned <;> cases hsigned
  · exact ⟨⟨['-'], _, by decide, hne, hdigit⟩, rfl⟩
  · exact ⟨⟨['+'], _, by decide, hne, hdigit⟩, rfl⟩
  · exact ⟨⟨[], _, by decide, hne, hdigit⟩, rfl⟩

theorem readInt?_ofInt (n : Int64) : Decimal.readInt? (Decimal.ofInt n.toInt) = some n := by
  have hlow : Int64.minValue.toInt ≤ n.toInt := Int64.minValue_le_toInt n
  have hhigh : n.toInt ≤ Int64.maxValue.toInt := Int64.toInt_le n
  rw [← Numeral.text_ofInt, Numeral.readInt?_text, Numeral.value_ofInt, if_pos ⟨hlow, hhigh⟩, Int64.ofInt_toInt]

theorem isName_of_readInt? (h : Decimal.readInt? cs = some n) : IsName cs := by
  obtain ⟨t, rfl⟩ := exists_numeral_of_readInt? h
  exact t.isName_text

theorem coerceChars_of_readInt? (h : Decimal.readInt? cs = some n) : coerceChars cs = .int n := by
  obtain ⟨t, rfl⟩ := exists_numeral_of_readInt? h
  rw [t.coerceChars_text, h]
  rfl

end

end DocStore.Query
