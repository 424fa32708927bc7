import DocStore.Json.Number

/-!
# Reading JSON

A reader takes something from the front of a text and returns it with the rest, which is shorter. Readers of
arrays and objects are made from readers of their items, so that a text can be read as a tree (`readTree`) or as
data of a given shape, and the first fault is the one reported. Arrays and objects may be nested up to
`maxNesting` deep.
-/

namespace DocStore.Json

/-- What was taken from the front of `s`, and what is left. -/
structure Taken (α : Type) (s : List Char) where
  value : α
  rest : List Char
  shorter : rest.length < s.length

abbrev Reader (α : Type) := (s : List Char) → Except Fault (Taken α s)

def Taken.map {α β : Type} {s : List Char} (f : α → β) (t : Taken α s) : Taken β s :=
  ⟨f t.value, t.rest, t.shorter⟩

def Taken.widen {α : Type} {s t : List Char} (h : s.length ≤ t.length) (taken : Taken α s) : Taken α t :=
  ⟨taken.value, taken.rest, Nat.lt_of_lt_of_le taken.shorter h⟩

def maxNesting : Nat := 127

/-! ## Blanks -/

def isBlank (c : Char) : Bool :=
  c = ' ' || c = '\n' || c = '\t' || c = '\r'

def skipBlanks (s : List Char) : List Char :=
  s.dropWhile isBlank

theorem skipBlanks_length_le (s : List Char) : (skipBlanks s).length ≤ s.length :=
  (List.dropWhile_suffix _).length_le

theorem length_lt_of_skipBlanks {s : List Char} {c : Char} {rest : List Char} (h : skipBlanks s = c :: rest) :
    rest.length < s.length := by
  have := skipBlanks_length_le s
  rw [h, List.length_cons] at this
  omega

/-! ## Strings -/

def hexValue? (c : Char) : Option Nat :=
  if Decimal.isDigit c then some (Decimal.digitValue c)
  else if 'a' ≤ c && c ≤ 'f' then some (c.toNat - 'a'.toNat + 10)
  else if 'A' ≤ c && c ≤ 'F' then some (c.toNat - 'A'.toNat + 10)
  else none

def readHex : Reader Nat := fun s =>
  match s with
  | a :: b :: c :: d :: rest =>
    match hexValue? a, hexValue? b, hexValue? c, hexValue? d with
    | some a, some b, some c, some d =>
      .ok ⟨((a * 16 + b) * 16 + c) * 16 + d, rest, by simp only [List.length_cons]; omega⟩
    | _, _, _, _ => .error ⟨.invalidEscape, s, 4⟩
  | _ => if (utf8 s).length < 4 then .error ⟨.endInString, [], 0⟩ else .error ⟨.invalidEscape, s, 4⟩

def isHighSurrogate (n : Nat) : Bool :=
  0xD800 ≤ n && n ≤ 0xDBFF

def isLowSurrogate (n : Nat) : Bool :=
  0xDC00 ≤ n && n ≤ 0xDFFF

def expectPairMark (mark : Char) : Reader Unit := fun s =>
  match s with
  | [] => .error ⟨.endInString, [], 0⟩
  | c :: rest => if c = mark then .ok ⟨(), rest, by simp⟩ else .error ⟨.endOfEscape, s, 1⟩

def readUnicode : Reader Char := fun s => do
  let first ← readHex s
  if isLowSurrogate first.value then .error ⟨.loneSurrogate, first.rest, 0⟩
  else if isHighSurrogate first.value then do
    let slash ← expectPairMark '\\' first.rest
    let mark ← expectPairMark 'u' slash.rest
    let second ← readHex mark.rest
    if isLowSurrogate second.value then
      .ok ⟨Char.ofNat (0x10000 + (first.value - 0xD800) * 0x400 + (second.value - 0xDC00)), second.rest, by
        have := first.shorter; have := slash.shorter; have := mark.shorter; have := second.shorter; omega⟩
    else .error ⟨.loneSurrogate, second.rest, 0⟩
  else .ok (first.map Char.ofNat)

def readEscape : Reader Char := fun s =>
  match s with
  | [] => .error ⟨.endInString, [], 0⟩
  | c :: rest =>
    let meaning (d : Char) : Except Fault (Taken Char (c :: rest)) := .ok ⟨d, rest, by simp⟩
    if c = '"' ∨ c = '\\' ∨ c = '/' then meaning c
    else if c = 'b' then meaning (Char.ofNat 8)
    else if c = 'f' then meaning (Char.ofNat 12)
    else if c = 'n' then meaning '\n'
    else if c = 'r' then meaning '\r'
    else if c = 't' then meaning '\t'
    else if c = 'u' then (readUnicode rest).map (·.widen (by simp))
    else .error ⟨.invalidEscape, s, 1⟩

def readChars (s : List Char) : Except Fault (Taken (List Char) s) :=
  match s with
  | [] => .error ⟨.endInString, [], 0⟩
  | c :: rest =>
    if c = '"' then .ok ⟨[], rest, by simp⟩
    else if c = '\\' then do
      let escaped ← readEscape rest
      let others ← readChars escaped.rest
      return ⟨escaped.value :: others.value, others.rest, by
        have := escaped.shorter; have := others.shorter; simp only [List.length_cons]; omega⟩
    else if c.toNat < 32 then .error ⟨.controlCharacter, rest, 0⟩
    else do
      let others ← readChars rest
      return ⟨c :: others.value, others.rest, by have := others.shorter; simp only [List.length_cons]; omega⟩
termination_by s.length
decreasing_by
  · have := escaped.shorter
    simp only [List.length_cons]
    omega
  · simp

/-! ## Numbers and words -/

theorem scanWhole_length_lt {s : List Char} {r : List Char × List Char} (h : scanWhole s = .ok r) :
    r.2.length < s.length := by
  unfold scanWhole at h
  split at h
  · cases h
  · rename_i rest
    split at h
    · cases h
      simp
    · split at h
      · cases h
      · cases h
        simp
  · rename_i c rest hne
    split at h
    · rename_i hd
      cases h
      simp only [spanDigits, List.dropWhile_cons, hd, if_true, List.length_cons]
      exact Nat.lt_succ_of_le (List.dropWhile_suffix _).length_le
    · cases h

theorem scanFraction_length_le {s : List Char} {r : Option (List Char) × List Char}
    (h : scanFraction s = .ok r) : r.2.length ≤ s.length := by
  unfold scanFraction at h
  split at h
  · split at h
    · cases h
    · cases h
    · rename_i ds rest' hne hspan
      cases h
      exact Nat.le_succ_of_le (spanDigits_length_le hspan)
  · cases h
    exact Nat.le_refl _

theorem scanPower_length_le {s : List Char} {r : Option (Bool × List Char) × List Char}
    (h : scanPower s = .ok r) : r.2.length ≤ s.length := by
  unfold scanPower at h
  split at h
  · cases h
    exact Nat.le_refl _
  · rename_i c rest
    split at h
    · split at h
      rename_i negative rest' hsign
      have hle : rest'.length ≤ rest.length := by
        split at hsign <;> cases hsign <;> simp
      split at h
      · cases h
      · cases h
      · rename_i ds rest'' hne hspan
        cases h
        exact Nat.le_succ_of_le (Nat.le_trans (spanDigits_length_le hspan) hle)
    · cases h
      exact Nat.le_refl _

theorem scanLiteral_length_lt {negative : Bool} {s : List Char} {r : Literal × List Char}
    (h : scanLiteral negative s = .ok r) : r.2.length < s.length := by
  unfold scanLiteral at h
  cases hw : scanWhole s with
  | error e => rw [hw] at h; cases h
  | ok w =>
    rw [hw] at h
    cases hf : scanFraction w.2 with
    | error e => simp only [bind, Except.bind, hf] at h; cases h
    | ok f =>
      cases hp : scanPower f.2 with
      | error e => simp only [bind, Except.bind, hf, hp] at h; cases h
      | ok p =>
        simp only [bind, Except.bind, hf, hp, pure, Except.pure] at h
        cases h
        exact Nat.lt_of_le_of_lt (Nat.le_trans (scanPower_length_le hp) (scanFraction_length_le hf))
          (scanWhole_length_lt hw)

def readNumber (negative : Bool) : Reader Json := fun s =>
  match h : scanLiteral negative s with
  | .error fault => .error fault
  | .ok (lit, rest) =>
    match lit.value with
    | .ok j => .ok ⟨j, rest, scanLiteral_length_lt h⟩
    | .error unread => .error ⟨.numberOutOfRange, s.drop (s.length - rest.length - unread), 0⟩

def expectRest (word : List Char) (s : List Char) : Except Fault { rest : List Char // rest.length ≤ s.length } :=
  match word, s with
  | [], s => .ok ⟨s, Nat.le_refl _⟩
  | _ :: _, [] => .error ⟨.endInValue, [], 0⟩
  | w :: word, c :: rest =>
    if c = w then (expectRest word rest).map fun r => ⟨r.val, Nat.le_succ_of_le r.property⟩
    else .error ⟨.expectedWord, c :: rest, 1⟩

def readScalar : Reader Json := fun s =>
  match s with
  | [] => .error ⟨.endInValue, [], 0⟩
  | c :: rest =>
    let word (j : Json) (others : List Char) : Except Fault (Taken Json (c :: rest)) :=
      (expectRest others rest).map fun r =>
        ⟨j, r.val, by have := r.property; simp only [List.length_cons]; omega⟩
    if c = 'n' then word .null ['u', 'l', 'l']
    else if c = 't' then word (.bool true) ['r', 'u', 'e']
    else if c = 'f' then word (.bool false) ['a', 'l', 's', 'e']
    else if c = '-' then (readNumber true rest).map (·.widen (by simp))
    else if Decimal.isDigit c then readNumber false (c :: rest)
    else if c = '"' then (readChars rest).map fun t => (t.map (.str ∘ String.ofList)).widen (by simp)
    else .error ⟨.expectedValue, c :: rest, 1⟩

/-! ## Items of arrays and objects -/

inductive Next (s : List Char) where
  | done (rest : List Char) (h : rest.length < s.length)
  | item (start : List Char) (h : start.length ≤ s.length)

structure Shape where
  close : Char
  ended : Cause
  needsComma : Cause

def Shape.list : Shape := ⟨']', .endInList, .expectedCommaInList⟩

def Shape.object : Shape := ⟨'\x7d', .endInObject, .expectedCommaInObject⟩

def Shape.next (shape : Shape) (first : Bool) (s : List Char) : Except Fault (Next s) :=
  match h : skipBlanks s with
  | [] => .error ⟨shape.ended, [], 0⟩
  | c :: rest =>
    if c = shape.close then .ok (.done rest (length_lt_of_skipBlanks h))
    else if first then .ok (.item (c :: rest) (h ▸ skipBlanks_length_le s))
    else if c = ',' then
      match h' : skipBlanks rest with
      | [] => .error ⟨.endInValue, [], 0⟩
      | d :: rest' =>
        if d = shape.close then .error ⟨.trailingComma, d :: rest', 1⟩
        else .ok (.item (d :: rest') (by
          have := length_lt_of_skipBlanks h; have := skipBlanks_length_le rest; rw [h'] at this; omega))
    else .error ⟨shape.needsComma, c :: rest, 1⟩

def readItems {α : Type} (item : Reader α) (first : Bool) (s : List Char) : Except Fault (Taken (List α) s) := do
  match ← Shape.list.next first s with
  | .done rest h => return ⟨[], rest, h⟩
  | .item start h =>
    let v ← item start
    let others ← readItems item false v.rest
    return ⟨v.value :: others.value, others.rest, by
      have := v.shorter; have := others.shorter; omega⟩
termination_by s.length
decreasing_by
  have := v.shorter
  omega

def readName : Reader String := fun s =>
  match s with
  | '"' :: rest => (readChars rest).map fun t => (t.map String.ofList).widen (by simp)
  | s => .error ⟨.nameNotString, s, 1⟩

def readColon : Reader Unit := fun s =>
  match h : skipBlanks s with
  | [] => .error ⟨.endInObject, [], 0⟩
  | c :: rest =>
    if c = ':' then .ok ⟨(), rest, length_lt_of_skipBlanks h⟩ else .error ⟨.expectedColon, c :: rest, 1⟩

def readMembers {α : Type} (item : Reader α) (first : Bool) (s : List Char) :
    Except Fault (Taken (List (String × α)) s) := do
  match ← Shape.object.next first s with
  | .done rest h => return ⟨[], rest, h⟩
  | .item start h =>
    let name ← readName start
    let colon ← readColon name.rest
    let v ← item colon.rest
    let others ← readMembers item false v.rest
    return ⟨(name.value, v.value) :: others.value, others.rest, by
      have := name.shorter; have := colon.shorter; have := v.shorter; have := others.shorter; omega⟩
termination_by s.length
decreasing_by
  have := name.shorter
  have := colon.shorter
  have := v.shorter
  omega

/-! ## Whole values -/

/-- Any value, with at most `depth` arrays and objects inside one another. -/
def readTree (depth : Nat) : Reader Json := fun s =>
  match h : skipBlanks s with
  | [] => .error ⟨.endInValue, [], 0⟩
  | c :: rest =>
    if c = '[' then
      match depth with
      | 0 => .error ⟨.tooDeep, c :: rest, 1⟩
      | depth + 1 => (readItems (readTree depth) true rest).map fun t =>
          (t.map .array).widen (Nat.le_of_lt (length_lt_of_skipBlanks h))
    else if c = '\x7b' then
      match depth with
      | 0 => .error ⟨.tooDeep, c :: rest, 1⟩
      | depth + 1 => (readMembers (readTree depth) true rest).map fun t =>
          (t.map .object).widen (Nat.le_of_lt (length_lt_of_skipBlanks h))
    else (readScalar (c :: rest)).map (·.widen (h ▸ skipBlanks_length_le s))

def Found.ofJson : Json → Found
  | .null => .null
  | .bool b => .bool b
  | .nat n => .nat n
  | .neg n => .neg n
  | .float x => .float x
  | .str s => .str s
  | .array _ => .array
  | .object _ => .object

/-- The fault of a value of the wrong kind; a scalar is read first, and its own fault counts instead. -/
def mismatch (expected : String) (s : List Char) : Fault :=
  match s with
  | [] => ⟨.endInValue, [], 0⟩
  | c :: _ =>
    if c = '[' then ⟨.mismatch .array expected, s, 0⟩
    else if c = '\x7b' then ⟨.mismatch .object expected, s, 0⟩
    else
      match readScalar s with
      | .error fault => fault
      | .ok t => ⟨.mismatch (.ofJson t.value) expected, t.rest, 0⟩

/-- An object whose members are all read by `item`; the reader is given the nesting that is left. -/
def readObjectOf {α : Type} (item : Nat → Reader α) (depth : Nat) : Reader (List (String × α)) := fun s =>
  match h : skipBlanks s with
  | [] => .error ⟨.endInValue, [], 0⟩
  | c :: rest =>
    if c = '\x7b' then
      match depth with
      | 0 => .error ⟨.tooDeep, c :: rest, 1⟩
      | depth + 1 => (readMembers (item depth) true rest).map
          (·.widen (Nat.le_of_lt (length_lt_of_skipBlanks h)))
    else .error (mismatch "a map" (c :: rest))

def readArrayOf {α : Type} (item : Nat → Reader α) (depth : Nat) : Reader (List α) := fun s =>
  match h : skipBlanks s with
  | [] => .error ⟨.endInValue, [], 0⟩
  | c :: rest =>
    if c = '[' then
      match depth with
      | 0 => .error ⟨.tooDeep, c :: rest, 1⟩
      | depth + 1 => (readItems (item depth) true rest).map
          (·.widen (Nat.le_of_lt (length_lt_of_skipBlanks h)))
    else .error (mismatch "a sequence" (c :: rest))

def readText : Reader String := fun s =>
  match h : skipBlanks s with
  | [] => .error ⟨.endInValue, [], 0⟩
  | '"' :: rest => (readChars rest).map fun t =>
      (t.map String.ofList).widen (Nat.le_of_lt (length_lt_of_skipBlanks h))
  | c :: rest => .error (mismatch "a string" (c :: rest))

def readAll {α : Type} (reader : Reader α) (text : String) : Except ReadError α :=
  let cs := text.toList
  match reader cs with
  | .error fault => .error (fault.locate cs)
  | .ok t =>
    match skipBlanks t.rest with
    | [] => .ok t.value
    | c :: rest => .error ((⟨.trailingCharacters, c :: rest, 1⟩ : Fault).locate cs)

def parse (text : String) : Except ReadError Json :=
  readAll (readTree maxNesting) text

end DocStore.Json
