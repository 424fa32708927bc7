import DocStore.Proofs.Json.Doubles
import DocStore.Proofs.Json.Source

/-!
# Reading what was written

The text of a tree, in any form, reads back as the tree with each scalar as its own text reads (`reread`), unless its
containers are nested deeper than the reader allows. It is the source of the text that is read first: there each number
still stands as it was written (`takesText_source`).
-/

namespace DocStore.Json

open Decimal (isDigit digitsOf)

/-! ## Scalars -/

def isScalar : Json → Bool
  | .array _ | .object _ => false
  | _ => true

def scalarBack (j : Json) : Option Json :=
  (outcome (readScalar (renderScalar j))).map Prod.fst

def leaf : Json → Source
  | .nat n => .number (wholeLiteral false n.toNat)
  | .neg n => .number (wholeLiteral (decide (n.toInt < 0)) n.toInt.natAbs)
  | .float x => ((outcome (readLeaf (renderFloat x))).map Prod.fst).getD (.word .null)
  | j => .word j

theorem written_wholeLiteral (negative : Bool) (n : Nat) :
    (wholeLiteral negative n).written = if negative then '-' :: digitsOf n else digitsOf n := by
  simp [Literal.written, Literal.text, Literal.fractionText, Literal.powerText, wholeLiteral]

theorem renderScalar_nat (n : UInt64) : renderScalar (.nat n) = (wholeLiteral false n.toNat).written := by
  simp [written_wholeLiteral, renderScalar]

theorem renderScalar_neg (n : Int64) :
    renderScalar (.neg n) = (wholeLiteral (decide (n.toInt < 0)) n.toInt.natAbs).written := by
  simp [written_wholeLiteral, renderScalar, Decimal.ofInt]

theorem renderScalar_float_eq_null {x : Float} (hx : x.isFinite = false) :
    renderScalar (.float x) = renderScalar .null := by
  simp [renderScalar, renderFloat, hx]

theorem outcome_readLeaf_written {lit : Literal} (hlit : lit.Proper) {s : List Char} (hs : EndsNumber s) :
    outcome (readLeaf (lit.written ++ s)) = some (.number lit, s) := by
  have hscan := scanLiteral_text hlit hs
  cases hn : lit.negative with
  | true =>
    rw [hn] at hscan
    have hw : lit.written ++ s = '-' :: (lit.text ++ s) := by simp [Literal.written, hn]
    rw [hw, outcome_readLeaf_minus, outcome_readLiteral hscan]
  | false =>
    rw [hn] at hscan
    obtain ⟨c, cs, ht, hc⟩ := hlit.text_head
    have hw : lit.written ++ s = c :: (cs ++ s) := by simp [Literal.written, hn, ht]
    rw [ht, List.cons_append] at hscan
    rw [hw, readLeaf_digit hc, outcome_readLiteral hscan]

theorem outcome_readScalar_str (t : String) (s : List Char) :
    outcome (readScalar (renderScalar (.str t) ++ s)) = some (.str t, s) := by
  have htext : renderScalar (.str t) ++ s = '"' :: (t.toList.flatMap escapeChar ++ '"' :: s) := by
    simp [renderScalar, renderString]
  rw [htext]
  unfold readScalar
  simp only [show ('"' : Char) ≠ 'n' by decide, show ('"' : Char) ≠ 't' by decide, show ('"' : Char) ≠ 'f' by decide,
    show ('"' : Char) ≠ '-' by decide, show isDigit '"' = false by decide, Bool.false_eq_true, if_false, if_true]
  rw [outcome_map _ (Json.str ∘ String.ofList) fun _ => ⟨rfl, rfl⟩, outcome_readChars]
  simp

/-- The literal of a double that has digits. -/
theorem leaf_float {x : Float} (hx : x.isFinite = true) :
    ∃ lit : Literal, leaf (.float x) = .number lit ∧ lit.Proper ∧ lit.Inexact ∧ lit.written = renderFloat x := by
  obtain ⟨lit, hproper, hinexact, hwritten⟩ := renderFloat_written hx
  have hread := outcome_readLeaf_written hproper (s := []) (by intro c hc; cases hc)
  rw [List.append_nil, hwritten] at hread
  exact ⟨lit, by rw [leaf, hread]; rfl, hproper, hinexact, hwritten⟩

theorem leaf_float_eq_null {x : Float} (hx : x.isFinite = false) : leaf (.float x) = .word .null := by
  have hnull : renderFloat x = renderScalar .null := renderScalar_float_eq_null hx
  rw [leaf, hnull]; rfl

/-- The text of a scalar is taken as a whole, whatever follows it. -/
theorem outcome_readLeaf {j : Json} (hj : j.isScalar = true) {s : List Char} (hs : EndsNumber s) :
    outcome (readLeaf (renderScalar j ++ s)) = some (j.leaf, s) := by
  cases j with
  | null => exact outcome_readLeaf_word (by decide) rfl _
  | bool b => cases b <;> exact outcome_readLeaf_word (by decide) rfl _
  | nat n => rw [renderScalar_nat]; exact outcome_readLeaf_written (proper_wholeLiteral ..) hs
  | neg n => rw [renderScalar_neg]; exact outcome_readLeaf_written (proper_wholeLiteral ..) hs
  | str t =>
    have hread := outcome_readScalar_str t s
    rw [renderScalar, renderString, List.cons_append, List.cons_append] at hread ⊢
    rw [outcome_readLeaf_word (by decide) rfl, hread]; rfl
  | float x =>
    cases hx : x.isFinite with
    | true =>
      obtain ⟨lit, hleaf, hproper, -, hwritten⟩ := leaf_float hx
      rw [hleaf, renderScalar, ← hwritten]; exact outcome_readLeaf_written hproper hs
    | false =>
      rw [renderScalar_float_eq_null hx, leaf_float_eq_null hx]
      exact outcome_readLeaf_word (by decide) rfl _
  | array items => cases hj
  | object members => cases hj

theorem json?_leaf {j : Json} (hj : j.isScalar = true) : j.leaf.json? = scalarBack j := by
  have hleaf := outcome_readLeaf hj (s := []) (by intro c hc; cases hc)
  rw [List.append_nil] at hleaf
  rw [scalarBack, follows_readLeaf, hleaf]
  cases h : j.leaf.json? <;> simp [h]

theorem scalarBack_null : scalarBack .null = some .null :=
  (json?_leaf rfl).symm

theorem scalarBack_bool (b : Bool) : scalarBack (.bool b) = some (.bool b) :=
  (json?_leaf rfl).symm

theorem scalarBack_str (t : String) : scalarBack (.str t) = some (.str t) :=
  (json?_leaf rfl).symm

theorem scalarBack_nat (n : UInt64) : scalarBack (.nat n) = some (.nat n) := by
  rw [← json?_leaf rfl, leaf, Source.json?, value_wholeLiteral false n.toNat_lt]
  simp [wholeNumber, Except.toOption]

theorem scalarBack_neg (n : Int64) :
    scalarBack (.neg n) = some (wholeNumber (decide (n.toInt < 0)) n.toInt.natAbs) := by
  have hn : n.toInt.natAbs < UInt64.size := by
    have := n.toInt_lt; have := n.le_toInt
    simp only [UInt64.size]; omega
  rw [← json?_leaf rfl, leaf, Source.json?, value_wholeLiteral _ hn]
  rfl

theorem Literal.Inexact.value {lit : Literal} (h : lit.Inexact) :
    ∃ y : Option Float, lit.value.toOption = y.map .float := by
  unfold Literal.value
  dsimp only
  rw [if_neg (by rintro ⟨-, hf, hp⟩; rcases h with h | h <;> simp_all)]
  split
  · rename_i x _; exact ⟨some (signedFloat lit.negative x), rfl⟩
  · exact ⟨none, rfl⟩

/-- A double is read as a double, if it is read at all. -/
theorem scalarBack_float {x : Float} (hx : x.isFinite = true) :
    ∃ y : Option Float, scalarBack (.float x) = y.map .float := by
  obtain ⟨lit, hleaf, -, hinexact, -⟩ := leaf_float hx
  rw [← json?_leaf rfl, hleaf]; exact hinexact.value

/-! ## Containers -/

mutual
def nesting : Json → Nat
  | .array items => itemsNesting items + 1
  | .object members => membersNesting members + 1
  | _ => 0

def itemsNesting : List Json → Nat
  | [] => 0
  | j :: rest => max j.nesting (itemsNesting rest)

def membersNesting : List (String × Json) → Nat
  | [] => 0
  | (_, j) :: rest => max j.nesting (membersNesting rest)
end

mutual
/-- What the text of a tree reads back as, if the reader allows any nesting. -/
def reread : Json → Option Json
  | .array items => (rereadItems items).map .array
  | .object members => (rereadMembers members).map .object
  | j => scalarBack j

def rereadItems : List Json → Option (List Json)
  | [] => some []
  | j :: rest => do
    let v ← j.reread
    let vs ← rereadItems rest
    return v :: vs

def rereadMembers : List (String × Json) → Option (List (String × Json))
  | [] => some []
  | (name, j) :: rest => do
    let v ← j.reread
    let vs ← rereadMembers rest
    return (name, v) :: vs
end

theorem itemsNesting_eq (items : List Json) : itemsNesting items = deepest nesting items := by
  induction items with
  | nil => rfl
  | cons j items ih => rw [itemsNesting, ih]; rfl

theorem membersNesting_eq (members : List (String × Json)) :
    membersNesting members = deepest (fun m => m.2.nesting) members := by
  induction members with
  | nil => rfl
  | cons m members ih => rw [membersNesting, ih]; rfl

def readBack (depth : Nat) (j : Json) : Option Json :=
  within depth j.nesting j.reread

theorem reread_of_isScalar {j : Json} (hj : j.isScalar = true) : j.reread = scalarBack j := by
  cases j <;> first | rfl | cases hj

theorem within_of_isScalar {α : Type} (depth : Nat) {j : Json} (hj : j.isScalar = true) (v : Option α) :
    within depth j.nesting v = v := by
  cases j <;> first | exact if_pos (Nat.zero_le depth) | cases hj

theorem readBack_of_isScalar (depth : Nat) {j : Json} (hj : j.isScalar = true) :
    readBack depth j = scalarBack j := by
  rw [readBack, within_of_isScalar depth hj, reread_of_isScalar hj]

theorem renderItems_eq (form : Form) (items : List Json) :
    renderItems form items = items.map (renderIn form) := by
  induction items with
  | nil => rfl
  | cons j items ih => rw [renderItems, ih]; rfl

theorem renderMembers_eq (form : Form) (members : List (String × Json)) :
    renderMembers form members = members.map (memberText form (renderIn form)) := by
  induction members with
  | nil => rfl
  | cons m members ih => rw [renderMembers, ih]; rfl

theorem renderIn_object (form : Form) (members : List (String × Json)) :
    renderIn form (.object members) =
      form.enclose '\x7b' '\x7d' (members.map (memberText form (renderIn form.deeper))) := by
  rw [renderIn, renderMembers_eq, memberText_deeper]

theorem startsItem_enclose (form : Form) {left right : Char} (hb : isBlank left = false) (hl : left ≠ ']')
    (hr : left ≠ '\x7d') (texts : List (List Char)) : StartsItem (form.enclose left right texts) := by
  have h := form.enclose_append left right texts []
  rw [List.append_nil] at h
  exact ⟨left, _, h, hb, hl, hr⟩

def StartsScalar (text : List Char) : Prop :=
  ∃ c cs, text = c :: cs ∧ isBlank c = false ∧ (c ≠ '[' ∧ c ≠ '\x7b') ∧ c ≠ ']' ∧ c ≠ '\x7d'

theorem StartsScalar.startsItem {text : List Char} (h : StartsScalar text) : StartsItem text := by
  obtain ⟨c, cs, htext, hblank, -, hclose⟩ := h
  exact ⟨c, cs, htext, hblank, hclose⟩

theorem startsScalar_of_isDigit {c : Char} (hc : isDigit c = true) (cs : List Char) :
    StartsScalar (c :: cs) := by
  have hblank : isBlank c = false := by
    simp only [isBlank, ne_of_isDigit hc (show isDigit ' ' = false by decide),
      ne_of_isDigit hc (show isDigit '\n' = false by decide), ne_of_isDigit hc (show isDigit '\t' = false by decide),
      ne_of_isDigit hc (show isDigit '\r' = false by decide), decide_false, Bool.or_self]
  exact ⟨c, cs, rfl, hblank, ⟨ne_of_isDigit hc (by decide), ne_of_isDigit hc (by decide)⟩,
    ne_of_isDigit hc (by decide), ne_of_isDigit hc (by decide)⟩

theorem Literal.Proper.startsScalar {lit : Literal} (hlit : lit.Proper) : StartsScalar lit.written := by
  obtain ⟨c, cs, htext, hc⟩ := hlit.text_head
  unfold Literal.written
  split
  · exact ⟨'-', lit.text, rfl, by decide, by decide, by decide, by decide⟩
  · rw [htext]; exact startsScalar_of_isDigit hc cs

theorem startsScalar_renderScalar {j : Json} (hj : j.isScalar = true) : StartsScalar (renderScalar j) := by
  have hnull : StartsScalar (renderScalar .null) := ⟨'n', _, rfl, by decide, by decide, by decide, by decide⟩
  cases j with
  | null => exact hnull
  | bool b => cases b <;> exact ⟨_, _, rfl, by decide, by decide, by decide, by decide⟩
  | nat n =>
    rw [renderScalar_nat]; exact (proper_wholeLiteral ..).startsScalar
  | neg n =>
    rw [renderScalar_neg]; exact (proper_wholeLiteral ..).startsScalar
  | float x =>
    cases hx : x.isFinite with
    | true =>
      obtain ⟨lit, hproper, -, hwritten⟩ := renderFloat_written hx
      rw [renderScalar, ← hwritten]; exact hproper.startsScalar
    | false => rw [renderScalar_float_eq_null hx]; exact hnull
  | str t => exact ⟨'"', _, rfl, by decide, by decide, by decide, by decide⟩
  | array items => cases hj
  | object members => cases hj

theorem renderIn_of_isScalar (form : Form) {j : Json} (hj : j.isScalar = true) :
    renderIn form j = renderScalar j := by
  cases j <;> first | rfl | cases hj

theorem startsItem_renderIn (form : Form) (j : Json) : StartsItem (renderIn form j) := by
  cases hj : j.isScalar with
  | true => rw [renderIn_of_isScalar form hj]; exact (startsScalar_renderScalar hj).startsItem
  | false =>
    cases j with
    | array items => exact startsItem_enclose form (by decide) (by decide) (by decide) _
    | object members => exact startsItem_enclose form (by decide) (by decide) (by decide) _
    | _ => cases hj

/-! ## Sources -/

mutual
def source : Json → Source
  | .array items => .array (itemsSource items)
  | .object members => .object (membersSource members)
  | j => j.leaf

def itemsSource : List Json → List Source
  | [] => []
  | j :: rest => j.source :: itemsSource rest

def membersSource : List (String × Json) → List (String × Source)
  | [] => []
  | (name, j) :: rest => (name, j.source) :: membersSource rest
end

theorem itemsSource_eq (items : List Json) : itemsSource items = items.map source := by
  induction items with
  | nil => rfl
  | cons j items ih => rw [itemsSource, ih]; rfl

theorem membersSource_eq (members : List (String × Json)) :
    membersSource members = members.map fun m => (m.1, m.2.source) := by
  induction members with
  | nil => rfl
  | cons m members ih => rw [membersSource, ih]; rfl

theorem source_of_isScalar {j : Json} (hj : j.isScalar = true) : j.source = j.leaf := by
  cases j <;> first | rfl | cases hj

mutual
/-- Evaluating what was written gives what is read back. -/
theorem json?_source : (j : Json) → j.source.json? = j.reread
  | .array items => by rw [source, Source.json?, json?_itemsSource items]; rfl
  | .object members => by rw [source, Source.json?, json?_membersSource members]; rfl
  | .null | .bool _ | .nat _ | .neg _ | .float _ | .str _ => by
    rw [source_of_isScalar rfl, json?_leaf rfl, reread_of_isScalar rfl]

theorem json?_itemsSource : (items : List Json) → Source.itemsJson? (itemsSource items) = rereadItems items
  | [] => rfl
  | j :: items => by rw [itemsSource, Source.itemsJson?, json?_source j, json?_itemsSource items]; rfl

theorem json?_membersSource : (members : List (String × Json)) →
    Source.membersJson? (membersSource members) = rereadMembers members
  | [] => rfl
  | (name, j) :: members => by
    rw [membersSource, Source.membersJson?, json?_source j, json?_membersSource members]; rfl
end

/-! ## Whole texts -/

theorem takesText_leaf (depth : Nat) {j : Json} (hj : j.isScalar = true) :
    TakesText (readSource depth) (renderScalar j) (some j.leaf) := by
  intro blanks s hb hs
  obtain ⟨c, cs, htext, hblank, ⟨ha, ho⟩, -⟩ := startsScalar_renderScalar hj
  have hskip : skipBlanks (blanks ++ (renderScalar j ++ s)) = c :: (cs ++ s) := by
    rw [skipBlanks_append hb, htext, List.cons_append, skipBlanks_cons hblank]
  rw [readSource, outcome_readWith_scalar depth hskip ha ho, ← List.cons_append, ← htext]
  exact outcome_readLeaf hj hs

theorem mapM_within_some {α β : Type} (nest : β → Nat) (f : β → α) (depth : Nat) (items : List β) :
    items.mapM (fun b => within depth (nest b) (some (f b))) =
      within depth (deepest nest items) (some (items.map f)) := by
  rw [mapM_within]
  congr 1
  induction items with
  | nil => rfl
  | cons b items ih => rw [List.mapM_cons, ih]; rfl

theorem takesText_array (form : Form) {depth : Nat} {items : List Json}
    (h : ∀ depth, ∀ j ∈ items,
      TakesText (readSource depth) (renderIn form.deeper j) (within depth j.nesting (some j.source))) :
    TakesText (readSource depth) (renderIn form (.array items))
      (within depth (nesting (.array items)) (some (source (.array items)))) := by
  intro blanks s hb hs
  rw [renderIn, renderItems_eq, readSource, outcome_readWith_array _ (skipBlanks_enclose hb form (by decide) _ _ s),
    nesting, source, itemsNesting_eq, itemsSource_eq]
  cases depth with
  | zero => rw [within_zero]; rfl
  | succ depth =>
    have hitems := outcome_readItems_inside form (readSource depth) (renderIn form.deeper)
      (fun j => within depth j.nesting (some j.source)) (fun j hj => ⟨startsItem_renderIn _ j, h depth j hj⟩) s
    rw [mapM_within_some] at hitems
    dsimp only
    rw [within_succ, ← readSource, hitems]
    unfold within
    split <;> rfl

theorem takesText_object (form : Form) {depth : Nat} {members : List (String × Json)}
    (h : ∀ depth, ∀ m ∈ members,
      TakesText (readSource depth) (renderIn form.deeper m.2) (within depth m.2.nesting (some m.2.source))) :
    TakesText (readSource depth) (renderIn form (.object members))
      (within depth (nesting (.object members)) (some (source (.object members)))) := by
  intro blanks s hb hs
  rw [renderIn_object, readSource, outcome_readWith_object _ (skipBlanks_enclose hb form (by decide) _ _ s),
    nesting, source, membersNesting_eq, membersSource_eq]
  cases depth with
  | zero => rw [within_zero]; rfl
  | succ depth =>
    have hmembers := outcome_readMembers_inside form (readSource depth) (renderIn form.deeper)
      (fun j => within depth j.nesting (some j.source)) (h depth) s
    rw [memberValue_within] at hmembers
    have hvalues : (fun m : String × Json => within depth m.2.nesting (memberValue (fun j => some j.source) m)) =
        fun m => within depth m.2.nesting (some (m.1, m.2.source)) := rfl
    rw [hvalues, mapM_within_some] at hmembers
    dsimp only
    rw [within_succ, ← readSource, hmembers]
    unfold within
    split <;> rfl

mutual
/-- The text of a tree gives its source, in any form and at any place. -/
theorem takesText_source (form : Form) (depth : Nat) : (j : Json) →
    TakesText (readSource depth) (renderIn form j) (within depth j.nesting (some j.source))
  | .array items => takesText_array form fun depth => takesText_items form.deeper depth items
  | .object members => takesText_object form fun depth => takesText_members form.deeper depth members
  | .null | .bool _ | .nat _ | .neg _ | .float _ | .str _ => by
    rw [renderIn_of_isScalar form rfl, source_of_isScalar rfl, within_of_isScalar depth rfl]
    exact takesText_leaf depth rfl

theorem takesText_items (form : Form) (depth : Nat) : (items : List Json) →
    ∀ j ∈ items, TakesText (readSource depth) (renderIn form j) (within depth j.nesting (some j.source))
  | [] => by simp
  | j :: items => by
    intro i hi
    rcases List.mem_cons.mp hi with hi | hi
    · rw [hi]; exact takesText_source form depth j
    · exact takesText_items form depth items i hi

theorem takesText_members (form : Form) (depth : Nat) : (members : List (String × Json)) →
    ∀ m ∈ members, TakesText (readSource depth) (renderIn form m.2) (within depth m.2.nesting (some m.2.source))
  | [] => by simp
  | (name, j) :: members => by
    intro m hm
    rcases List.mem_cons.mp hm with hm | hm
    · rw [hm]; exact takesText_source form depth j
    · exact takesText_members form depth members m hm
end

theorem TakesText.follows {α β : Type} {first : Reader α} {second : Reader β} {f : β → Option α} {text : List Char}
    {v : Option β} (ht : TakesText second text v) (h : Follows first second f) : TakesText first text (v.bind f) := by
  intro blanks s hb hs
  rw [h, ht blanks s hb hs]
  cases v <;> rfl

/-- The text of a tree reads back as `readBack` says, in any form and at any place. -/
theorem takesText_renderIn (form : Form) (depth : Nat) (j : Json) :
    TakesText (readTree depth) (renderIn form j) (readBack depth j) := by
  have h := (takesText_source form depth j).follows (follows_readTree depth)
  have hback : (within depth j.nesting (some j.source)).bind Source.json? = readBack depth j := by
    unfold readBack within
    split
    · exact json?_source j
    · rfl
  rwa [hback] at h

end DocStore.Json
