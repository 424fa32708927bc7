import DocStore.Json.Reader

/-!
# What readers take

A reader's result without its length bound is its `outcome`: the value and the rest, or nothing. Readers are
described by equations between outcomes, one for each way in which they go on.
-/

namespace DocStore.Json

def outcome {α : Type} {s : List Char} : Except Fault (Taken α s) → Option (α × List Char)
  | .ok t => some (t.value, t.rest)
  | .error _ => none

section
variable {α β : Type} {s t : List Char}

@[simp] theorem outcome_ok (taken : Taken α s) : outcome (.ok taken) = some (taken.value, taken.rest) := rfl

@[simp] theorem outcome_error (fault : Fault) : outcome (.error fault : Except Fault (Taken α s)) = none := rfl

theorem outcome_map (f : Taken α s → Taken β t) (g : α → β)
    (h : ∀ taken, (f taken).value = g taken.value ∧ (f taken).rest = taken.rest) (r : Except Fault (Taken α s)) :
    outcome (r.map f) = (outcome r).map fun p => (g p.1, p.2) := by
  cases r with
  | error fault => rfl
  | ok taken => simp [Except.map, h taken]

@[simp] theorem outcome_widen (h : s.length ≤ t.length) (r : Except Fault (Taken α s)) :
    outcome (r.map fun taken => taken.widen h) = outcome r := by
  cases r <;> rfl

theorem ok_of_outcome {r : Except Fault (Taken α s)} {v : α} {rest : List Char} (h : outcome r = some (v, rest)) :
    ∃ taken, r = .ok taken ∧ taken.value = v ∧ taken.rest = rest := by
  cases r with
  | error fault => cases h
  | ok taken => cases h; exact ⟨taken, rfl, rfl, rfl⟩

theorem readAll_toOption (reader : Reader α) (text : String) :
    (readAll reader text).toOption =
      (outcome (reader text.toList)).bind fun p => if skipBlanks p.2 = [] then some p.1 else none := by
  unfold readAll
  dsimp only
  cases reader text.toList with
  | error fault => rfl
  | ok taken =>
    simp only [outcome_ok, Option.bind_some]
    split
    · rename_i h; simp [h, Except.toOption]
    · rename_i h; simp [h, Except.toOption]

end

/-! ## Blanks -/

theorem skipBlanks_append {blanks : List Char} (hb : ∀ c ∈ blanks, isBlank c = true) (s : List Char) :
    skipBlanks (blanks ++ s) = skipBlanks s :=
  List.dropWhile_append_of_pos hb

theorem skipBlanks_cons {c : Char} (hc : isBlank c = false) (s : List Char) : skipBlanks (c :: s) = c :: s := by
  simp [skipBlanks, hc]

/-! ## Strings -/

theorem outcome_readChars_quote (s : List Char) : outcome (readChars ('"' :: s)) = some ([], s) := by
  rw [readChars]; simp

theorem outcome_readChars_plain {c : Char} (hq : c ≠ '"') (hs : c ≠ '\\') (hc : ¬ c.toNat < 32) (s : List Char) :
    outcome (readChars (c :: s)) = (outcome (readChars s)).map fun p => (c :: p.1, p.2) := by
  rw [readChars]
  simp only [hq, hs, hc, if_false]
  cases readChars s <;> rfl

theorem outcome_readChars_escape {s rest : List Char} {c : Char} (h : outcome (readEscape s) = some (c, rest)) :
    outcome (readChars ('\\' :: s)) = (outcome (readChars rest)).map fun p => (c :: p.1, p.2) := by
  obtain ⟨taken, htaken, rfl, rfl⟩ := ok_of_outcome h
  rw [readChars]
  simp only [show ('\\' : Char) ≠ '"' by decide, if_false, if_true, htaken]
  cases hr : readChars taken.rest with
  | error fault => simp [bind, Except.bind, hr]
  | ok others => simp [bind, Except.bind, pure, Except.pure, hr]

theorem hexValue?_hexDigit : ∀ n < 16, hexValue? (hexDigit n) = some n := by
  decide

theorem outcome_readEscape_hex {c : Char} (hc : c.toNat < 32) (s : List Char) :
    outcome (readEscape ('u' :: '0' :: '0' :: hexDigit (c.toNat / 16) :: hexDigit (c.toNat % 16) :: s)) =
      some (c, s) := by
  have h0 : hexValue? '0' = some 0 := by decide
  have hhigh := hexValue?_hexDigit (c.toNat / 16) (by omega)
  have hlow := hexValue?_hexDigit (c.toNat % 16) (by omega)
  have hvalue : ((0 * 16 + 0) * 16 + c.toNat / 16) * 16 + c.toNat % 16 = c.toNat := by omega
  have hl : isLowSurrogate c.toNat = false := by simp [isLowSurrogate]; omega
  have hh : isHighSurrogate c.toNat = false := by simp [isHighSurrogate]; omega
  have hu : readUnicode ('0' :: '0' :: hexDigit (c.toNat / 16) :: hexDigit (c.toNat % 16) :: s) =
      .ok ⟨c, s, by simp only [List.length_cons]; omega⟩ := by
    unfold readUnicode readHex
    simp only [h0, hhigh, hlow, hvalue, bind, Except.bind]
    simp [hl, hh, Taken.map]
  unfold readEscape
  simp [hu, Except.map, Taken.widen]

theorem outcome_readChars_escapeChar (c : Char) (s : List Char) :
    outcome (readChars (escapeChar c ++ s)) = (outcome (readChars s)).map fun p => (c :: p.1, p.2) := by
  unfold escapeChar
  by_cases hq : c = '"'
  · subst hq; exact outcome_readChars_escape rfl
  by_cases hs : c = '\\'
  · subst hs; exact outcome_readChars_escape rfl
  by_cases hn : c = '\n'
  · subst hn; exact outcome_readChars_escape rfl
  by_cases hr : c = '\r'
  · subst hr; exact outcome_readChars_escape rfl
  by_cases ht : c = '\t'
  · subst ht; exact outcome_readChars_escape rfl
  by_cases hb : c.toNat = 8
  · obtain rfl : c = Char.ofNat 8 := by rw [← hb, Char.ofNat_toNat]
    exact outcome_readChars_escape rfl
  by_cases hf : c.toNat = 12
  · obtain rfl : c = Char.ofNat 12 := by rw [← hf, Char.ofNat_toNat]
    exact outcome_readChars_escape rfl
  by_cases hc : c.toNat < 32
  · rw [if_neg hq, if_neg hs, if_neg hn, if_neg hr, if_neg ht, if_neg hb, if_neg hf, if_pos hc]
    exact outcome_readChars_escape (outcome_readEscape_hex hc s)
  · rw [if_neg hq, if_neg hs, if_neg hn, if_neg hr, if_neg ht, if_neg hb, if_neg hf, if_neg hc]
    exact outcome_readChars_plain hq hs hc s

theorem outcome_readChars (cs rest : List Char) :
    outcome (readChars (cs.flatMap escapeChar ++ '"' :: rest)) = some (cs, rest) := by
  induction cs with
  | nil => exact outcome_readChars_quote rest
  | cons c cs ih => rw [List.flatMap_cons, List.append_assoc, outcome_readChars_escapeChar, ih]; rfl

theorem outcome_readName (name : String) (rest : List Char) :
    outcome (readName (renderString name ++ rest)) = some (name, rest) := by
  have htext : renderString name ++ rest = '"' :: (name.toList.flatMap escapeChar ++ '"' :: rest) := by
    simp [renderString]
  rw [htext, readName, outcome_map _ String.ofList fun _ => ⟨rfl, rfl⟩, outcome_readChars]
  simp

theorem outcome_readColon (s : List Char) : outcome (readColon (':' :: s)) = some ((), s) := by
  have hb : skipBlanks (':' :: s) = ':' :: s := skipBlanks_cons (by decide) s
  unfold readColon
  split
  · rename_i h; rw [hb] at h; cases h
  · rename_i h; rw [hb] at h; cases h; rfl

/-! ## Items -/

namespace Shape

variable (shape : Shape) {s rest : List Char} {c : Char}

theorem next_close (first : Bool) (h : skipBlanks s = shape.close :: rest) :
    ∃ hlt, shape.next first s = .ok (.done rest hlt) := by
  unfold next
  split
  · rename_i h'; rw [h] at h'; cases h'
  · rename_i h'
    rw [h] at h'; cases h'
    exact ⟨length_lt_of_skipBlanks h, if_pos rfl⟩

theorem next_first (h : skipBlanks s = c :: rest) (hc : c ≠ shape.close) :
    ∃ hle, shape.next true s = .ok (.item (c :: rest) hle) := by
  unfold next
  split
  · rename_i h'; rw [h] at h'; cases h'
  · rename_i h'
    rw [h] at h'; cases h'
    exact ⟨h ▸ skipBlanks_length_le s, by rw [if_neg hc]; rfl⟩

theorem next_comma {s' : List Char} (h : skipBlanks s = ',' :: s') (hcomma : ',' ≠ shape.close)
    (h' : skipBlanks s' = c :: rest) (hc : c ≠ shape.close) :
    ∃ hle, shape.next false s = .ok (.item (c :: rest) hle) := by
  unfold next
  split
  · rename_i hs; rw [h] at hs; cases hs
  · rename_i hs
    rw [h] at hs; cases hs
    rw [if_neg hcomma]
    simp only [Bool.false_eq_true, if_false, if_true]
    split
    · rename_i hs'; rw [h'] at hs'; cases hs'
    · rename_i hs'
      rw [h'] at hs'; cases hs'
      have hlt := length_lt_of_skipBlanks h
      have hle := skipBlanks_length_le s'
      rw [h'] at hle
      exact ⟨by omega, if_neg hc⟩

end Shape

section
variable {α : Type} (item : Reader α) {first : Bool} {s start rest : List Char} {hle : start.length ≤ s.length}

theorem outcome_readItems_close (h : skipBlanks s = ']' :: rest) :
    outcome (readItems item first s) = some ([], rest) := by
  obtain ⟨hlt, hn⟩ := Shape.list.next_close first h
  rw [readItems, hn]; rfl

theorem outcome_readItems_item (hn : Shape.list.next first s = .ok (.item start hle)) :
    outcome (readItems item first s) = (outcome (item start)).bind fun p =>
      (outcome (readItems item false p.2)).map fun q => (p.1 :: q.1, q.2) := by
  rw [readItems, hn]
  simp only [bind, Except.bind]
  cases item start with
  | error fault => rfl
  | ok v =>
    simp only [outcome_ok, Option.bind_some]
    cases readItems item false v.rest <;> rfl

theorem outcome_readMembers_close (h : skipBlanks s = '\x7d' :: rest) :
    outcome (readMembers item first s) = some ([], rest) := by
  obtain ⟨hlt, hn⟩ := Shape.object.next_close first h
  rw [readMembers, hn]; rfl

/-- A member is its name, a colon and its value. -/
theorem outcome_readMembers_member (hn : Shape.object.next first s = .ok (.item start hle)) :
    outcome (readMembers item first s) = (outcome (readName start)).bind fun n =>
      (outcome (readColon n.2)).bind fun c => (outcome (item c.2)).bind fun p =>
        (outcome (readMembers item false p.2)).map fun q => ((n.1, p.1) :: q.1, q.2) := by
  rw [readMembers, hn]
  simp only [bind, Except.bind]
  cases readName start with
  | error fault => rfl
  | ok name =>
    simp only [outcome_ok, Option.bind_some]
    cases readColon name.rest with
    | error fault => rfl
    | ok colon =>
      simp only [outcome_ok, Option.bind_some]
      cases item colon.rest with
      | error fault => rfl
      | ok v =>
        simp only [outcome_ok, Option.bind_some]
        cases readMembers item false v.rest <;> rfl

theorem outcome_readMembers_item {name : String} (hn : Shape.object.next first s = .ok (.item start hle))
    (hname : outcome (readName start) = some (name, ':' :: rest)) :
    outcome (readMembers item first s) = (outcome (item rest)).bind fun p =>
      (outcome (readMembers item false p.2)).map fun q => ((name, p.1) :: q.1, q.2) := by
  rw [outcome_readMembers_member item hn, hname, Option.bind_some, outcome_readColon]; rfl

end

end DocStore.Json
