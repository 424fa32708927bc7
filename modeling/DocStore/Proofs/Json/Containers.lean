import DocStore.Proofs.Json.Numerals

/-!
# Written arrays and objects

Given what the items of a container read back as, the container reads back as all of them, or as nothing if one of
them does. Items are of any kind, so that the same facts serve trees and data of a given shape.
-/

namespace DocStore.Json

/-- The reader takes exactly the text, or fails at it, after any blanks and before anything that ends a number. -/
def TakesText {α : Type} (item : Reader α) (text : List Char) (v : Option α) : Prop :=
  ∀ blanks s, (∀ c ∈ blanks, isBlank c = true) → EndsNumber s →
    outcome (item (blanks ++ (text ++ s))) = v.map fun a => (a, s)

def StartsItem (text : List Char) : Prop :=
  ∃ c cs, text = c :: cs ∧ isBlank c = false ∧ c ≠ ']' ∧ c ≠ '\x7d'

/-! ## Texts between brackets -/

namespace Form

def tail (form : Form) (right : Char) (texts : List (List Char)) (s : List Char) : List Char :=
  texts.flatMap (',' :: form.deeper.lineBreak ++ ·) ++ (form.lineBreak ++ right :: s)

def inside (form : Form) (right : Char) (texts : List (List Char)) (s : List Char) : List Char :=
  match texts with
  | [] => right :: s
  | first :: others => form.deeper.lineBreak ++ (first ++ form.tail right others s)

theorem enclose_append (form : Form) (left right : Char) (texts : List (List Char)) (s : List Char) :
    form.enclose left right texts ++ s = left :: form.inside right texts s := by
  cases texts with
  | nil => rfl
  | cons first others => simp [enclose, inside, tail]

theorem isBlank_lineBreak (form : Form) : ∀ c ∈ form.lineBreak, isBlank c = true := by
  intro c hc
  cases form with
  | compact => cases hc
  | indented unit level =>
    rcases List.mem_cons.mp hc with rfl | hc
    · decide
    · rw [(List.mem_replicate.mp hc).2]; decide

theorem colon_deeper (form : Form) : form.deeper.colon = form.colon := by
  cases form <;> rfl

theorem colon_eq (form : Form) : ∃ gap, form.colon = ':' :: gap ∧ ∀ c ∈ gap, isBlank c = true := by
  cases form with
  | compact => exact ⟨[], rfl, by simp⟩
  | indented unit level => exact ⟨[' '], rfl, List.forall_mem_singleton.mpr rfl⟩

theorem tail_cons (form : Form) (right : Char) (text : List Char) (texts : List (List Char)) (s : List Char) :
    form.tail right (text :: texts) s = ',' :: (form.deeper.lineBreak ++ (text ++ form.tail right texts s)) := by
  simp [tail]

theorem skipBlanks_tail_nil (form : Form) {right : Char} (hr : isBlank right = false) (s : List Char) :
    skipBlanks (form.tail right [] s) = right :: s := by
  rw [tail, List.flatMap_nil, List.nil_append, skipBlanks_append form.isBlank_lineBreak, skipBlanks_cons hr]

theorem endsNumber_tail (form : Form) {right : Char} (hr : right = ']' ∨ right = '\x7d') (texts :
    List (List Char))
    (s : List Char) : EndsNumber (form.tail right texts s) := by
  intro c hc
  cases texts with
  | cons text texts => rw [tail_cons] at hc; cases hc; decide
  | nil =>
    cases form with
    | compact => cases hc; rcases hr with rfl | rfl <;> decide
    | indented unit level => cases hc; decide

end Form

theorem skipBlanks_enclose {blanks : List Char} (hb : ∀ c ∈ blanks, isBlank c = true) (form : Form) {left : Char}
    (hl : isBlank left = false) (right : Char) (texts : List (List Char)) (s : List Char) :
    skipBlanks (blanks ++ (form.enclose left right texts ++ s)) = left :: form.inside right texts s := by
  rw [skipBlanks_append hb, form.enclose_append, skipBlanks_cons hl]

/-- The line break before an item and the item's first character. -/
theorem skipBlanks_item (form : Form) {text : List Char} (h : StartsItem text) (s : List Char) :
    ∃ c cs, skipBlanks (form.lineBreak ++ (text ++ s)) = c :: (cs ++ s) ∧ text = c :: cs ∧ c ≠ ']' ∧ c ≠ '\x7d' := by
  obtain ⟨c, cs, rfl, hblank, hclose⟩ := h
  refine ⟨c, cs, ?_, rfl, hclose⟩
  rw [skipBlanks_append form.isBlank_lineBreak, List.cons_append, skipBlanks_cons hblank]

section
variable {α β : Type} (form : Form) (item : Reader α) (text : β → List Char) (value : β → Option α)

/-! ## Arrays -/

theorem outcome_readItems_cons {b : β} {items : List β} {first : Bool} {s rest : List Char} {c : Char}
    {cs : List Char}
    (htext : text b = c :: cs) (htakes : TakesText item (text b) (value b))
    {hle : (c :: (cs ++ form.tail ']' (items.map text) rest)).length ≤ s.length}
    (hn : Shape.list.next first s = .ok (.item (c :: (cs ++ form.tail ']' (items.map text) rest)) hle))
    (ih : outcome (readItems item false (form.tail ']' (items.map text) rest)) =
      (items.mapM value).map fun vs => (vs, rest)) :
    outcome (readItems item first s) = ((b :: items).mapM value).map fun vs => (vs, rest) := by
  have hitem := htakes [] _ (by simp) (form.endsNumber_tail (.inl rfl) (items.map text) rest)
  rw [List.nil_append, htext, List.cons_append] at hitem
  rw [outcome_readItems_item item hn, hitem]
  cases hv : value b with
  | none => simp [hv]
  | some a =>
    simp only [Option.map_some, Option.bind_some, ih]
    cases hvs : items.mapM value <;> simp [hv, hvs]

theorem outcome_readItems_tail {items : List β}
    (h : ∀ b ∈ items, StartsItem (text b) ∧ TakesText item (text b) (value b)) (s : List Char) :
    outcome (readItems item false (form.tail ']' (items.map text) s)) = (items.mapM value).map fun vs => (vs, s) := by
  induction items with
  | nil => exact outcome_readItems_close item (form.skipBlanks_tail_nil (by decide) s)
  | cons b items ih =>
    obtain ⟨hstarts, htakes⟩ := h b (List.mem_cons_self ..)
    obtain ⟨c, cs, hskip, htext, hclose, -⟩ := skipBlanks_item form.deeper hstarts (form.tail ']' (items.map text) s)
    rw [List.map_cons, Form.tail_cons]
    obtain ⟨_, hn⟩ := Shape.list.next_comma (skipBlanks_cons (by decide) _) (by decide) hskip hclose
    exact outcome_readItems_cons form item text value htext htakes hn (ih fun b hb => h b (List.mem_cons_of_mem _ hb))

theorem outcome_readItems_inside {items : List β}
    (h : ∀ b ∈ items, StartsItem (text b) ∧ TakesText item (text b) (value b)) (s : List Char) :
    outcome (readItems item true (form.inside ']' (items.map text) s)) = (items.mapM value).map fun vs => (vs, s) := by
  cases items with
  | nil => exact outcome_readItems_close item (skipBlanks_cons (by decide) s)
  | cons b items =>
    obtain ⟨hstarts, htakes⟩ := h b (List.mem_cons_self ..)
    obtain ⟨c, cs, hskip, htext, hclose, -⟩ := skipBlanks_item form.deeper hstarts (form.tail ']' (items.map text) s)
    obtain ⟨_, hn⟩ := Shape.list.next_first hskip hclose
    exact outcome_readItems_cons form item text value htext htakes hn
      (outcome_readItems_tail form item text value (fun b hb => h b (List.mem_cons_of_mem _ hb)) s)

/-! ## Objects -/

def memberText (m : String × β) : List Char :=
  renderString m.1 ++ form.colon ++ text m.2

def memberValue (m : String × β) : Option (String × α) :=
  (value m.2).map fun v => (m.1, v)

theorem memberText_deeper : memberText form.deeper text = memberText form text := by
  funext m; rw [memberText, memberText, form.colon_deeper]

theorem startsItem_memberText (m : String × β) : StartsItem (memberText form text m) :=
  ⟨'"', m.1.toList.flatMap escapeChar ++ ['"'] ++ form.colon ++ text m.2, by simp [memberText, renderString],
    by decide, by decide, by decide⟩

theorem outcome_readMembers_cons {m : String × β} {members : List (String × β)} {first : Bool} {s rest : List Char}
    {c : Char} {cs : List Char} (htext : memberText form text m = c :: cs)
    (htakes : TakesText item (text m.2) (value m.2))
    {hle : (c :: (cs ++ form.tail '\x7d' (members.map (memberText form text)) rest)).length ≤ s.length}
    (hn : Shape.object.next first s =
      .ok (.item (c :: (cs ++ form.tail '\x7d' (members.map (memberText form text)) rest)) hle))
    (ih : outcome (readMembers item false (form.tail '\x7d' (members.map (memberText form text)) rest)) =
      (members.mapM (memberValue value)).map fun vs => (vs, rest)) :
    outcome (readMembers item first s) = ((m :: members).mapM (memberValue value)).map fun vs => (vs, rest) := by
  obtain ⟨gap, hcolon, hgap⟩ := form.colon_eq
  have hitem := htakes gap _ hgap (form.endsNumber_tail (.inr rfl) (members.map (memberText form text)) rest)
  have hname : outcome (readName (c :: (cs ++ form.tail '\x7d' (members.map (memberText form text)) rest))) =
      some (m.1, ':' :: (gap ++ (text m.2 ++ form.tail '\x7d' (members.map (memberText form text)) rest))) := by
    rw [← List.cons_append, ← htext, memberText, hcolon, List.append_assoc, List.append_assoc]
    exact outcome_readName _ _
  rw [outcome_readMembers_item item hn hname, hitem]
  cases hv : value m.2 with
  | none => simp [memberValue, hv]
  | some a =>
    simp only [Option.map_some, Option.bind_some, ih]
    cases hvs : members.mapM (memberValue value) <;> simp [memberValue, hv, hvs]

theorem outcome_readMembers_tail {members : List (String × β)}
    (h : ∀ m ∈ members, TakesText item (text m.2) (value m.2)) (s : List Char) :
    outcome (readMembers item false (form.tail '\x7d' (members.map (memberText form text)) s)) =
      (members.mapM (memberValue value)).map fun vs => (vs, s) := by
  induction members with
  | nil => exact outcome_readMembers_close item (form.skipBlanks_tail_nil (by decide) s)
  | cons m members ih =>
    obtain ⟨c, cs, hskip, htext, -, hclose⟩ := skipBlanks_item form.deeper (startsItem_memberText form text m)
      (form.tail '\x7d' (members.map (memberText form text)) s)
    rw [List.map_cons, Form.tail_cons]
    obtain ⟨_, hn⟩ := Shape.object.next_comma (skipBlanks_cons (by decide) _) (by decide) hskip hclose
    exact outcome_readMembers_cons form item text value htext (h m (List.mem_cons_self ..)) hn
      (ih fun m hm => h m (List.mem_cons_of_mem _ hm))

theorem outcome_readMembers_inside {members : List (String × β)}
    (h : ∀ m ∈ members, TakesText item (text m.2) (value m.2)) (s : List Char) :
    outcome (readMembers item true (form.inside '\x7d' (members.map (memberText form text)) s)) =
      (members.mapM (memberValue value)).map fun vs => (vs, s) := by
  cases members with
  | nil => exact outcome_readMembers_close item (skipBlanks_cons (by decide) s)
  | cons m members =>
    obtain ⟨c, cs, hskip, htext, -, hclose⟩ := skipBlanks_item form.deeper (startsItem_memberText form text m)
      (form.tail '\x7d' (members.map (memberText form text)) s)
    obtain ⟨_, hn⟩ := Shape.object.next_first hskip hclose
    exact outcome_readMembers_cons form item text value htext (h m (List.mem_cons_self ..)) hn
      (outcome_readMembers_tail form item text value (fun m hm => h m (List.mem_cons_of_mem _ hm)) s)

end

/-! ## Nesting -/

section
variable {α β : Type}

def within (depth nest : Nat) (v : Option α) : Option α :=
  if nest ≤ depth then v else none

def deepest (nest : β → Nat) : List β → Nat
  | [] => 0
  | b :: rest => max (nest b) (deepest nest rest)

theorem deepest_le_iff {nest : β → Nat} {items : List β} {depth : Nat} :
    deepest nest items ≤ depth ↔ ∀ b ∈ items, nest b ≤ depth := by
  induction items with
  | nil => simp [deepest]
  | cons b items ih => rw [deepest, Nat.max_le, ih, List.forall_mem_cons]

theorem within_zero (nest : Nat) (v : Option α) : within 0 (nest + 1) v = none :=
  if_neg (Nat.not_succ_le_zero nest)

theorem within_succ (depth nest : Nat) (v : Option α) :
    within (depth + 1) (nest + 1) v = within depth nest v := by
  simp only [within, Nat.add_le_add_iff_right]

theorem within_eq_some {depth nest : Nat} {v : Option α} {a : α} :
    within depth nest v = some a ↔ nest ≤ depth ∧ v = some a := by
  unfold within; split <;> simp [*]

theorem map_within (f : α → β) (depth nest : Nat) (v : Option α) :
    (within depth nest v).map f = within depth nest (v.map f) := by
  unfold within; split <;> rfl

theorem mapM_within (nest : β → Nat) (value : β → Option α) (depth : Nat) (items : List β) :
    items.mapM (fun b => within depth (nest b) (value b)) = within depth (deepest nest items) (items.mapM value) := by
  induction items with
  | nil => simp [within, deepest]
  | cons b items ih =>
    rw [List.mapM_cons, List.mapM_cons, ih, deepest]
    unfold within
    by_cases hb : nest b ≤ depth
    · by_cases hi : deepest nest items ≤ depth
      · rw [if_pos hb, if_pos hi, if_pos (Nat.max_le.mpr ⟨hb, hi⟩)]
      · rw [if_pos hb, if_neg hi, if_neg (fun h => hi (Nat.max_le.mp h).2)]
        cases value b <;> rfl
    · rw [if_neg hb, if_neg (fun h => hb (Nat.max_le.mp h).1)]; rfl

theorem memberValue_within (nest : β → Nat) (value : β → Option α) (depth : Nat) :
    memberValue (fun b => within depth (nest b) (value b)) =
      fun m => within depth (nest m.2) (memberValue value m) := by
  funext m; exact map_within ..

end

/-! ## Objects of a given shape -/

theorem outcome_readObjectOf {α : Type} (item : Nat → Reader α) (depth : Nat) {s rest : List Char}
    (h : skipBlanks s = '\x7b' :: rest) : outcome (readObjectOf item depth s) = match depth with
      | 0 => none
      | depth + 1 => outcome (readMembers (item depth) true rest) := by
  unfold readObjectOf
  split
  · rename_i h'; rw [h] at h'; cases h'
  · rename_i h'
    rw [h] at h'; cases h'
    rw [if_pos rfl]
    cases depth with
    | zero => rfl
    | succ depth => exact outcome_widen _ _

theorem outcome_readObjectOf_of_ne {α : Type} (item : Nat → Reader α) (depth : Nat) {s : List Char}
    (h : ∀ rest, skipBlanks s ≠ '\x7b' :: rest) : outcome (readObjectOf item depth s) = none := by
  unfold readObjectOf
  split
  · rfl
  · rename_i c rest hskip
    rw [if_neg (by rintro rfl; exact h rest hskip)]; rfl

section
variable {α β : Type}

/-- An object reads back member by member, if no member is nested deeper than it may be. -/
theorem takesText_readObjectOf (item : Nat → Reader α) (form : Form) (text : β → List Char) (nest : β → Nat)
    (value : β → Option α) {members : List (String × β)}
    (h : ∀ depth, ∀ m ∈ members, TakesText (item depth) (text m.2) (within depth (nest m.2) (value m.2)))
    (depth : Nat) :
    TakesText (readObjectOf item depth) (form.enclose '\x7b' '\x7d' (members.map (memberText form text)))
      (within depth (deepest (fun m => nest m.2) members + 1) (members.mapM (memberValue value))) := by
  intro blanks s hb hs
  rw [outcome_readObjectOf _ _ (skipBlanks_enclose hb form (by decide) _ _ s)]
  cases depth with
  | zero => rw [within_zero]; rfl
  | succ depth =>
    rw [within_succ, ← mapM_within, ← memberValue_within]
    exact outcome_readMembers_inside form (item depth) text _ (h depth) s

theorem TakesText.map {item : Reader α} {text : List Char} {v : Option α} (h : TakesText item text v) (f : α → β) :
    TakesText (fun s => (item s).map (·.map f)) text (v.map f) := by
  intro blanks s hb hs
  rw [outcome_map _ f fun _ => ⟨rfl, rfl⟩, h blanks s hb hs]
  cases v <;> rfl

theorem readAll_of_takesText {reader : Reader α} {text : List Char} {v : Option α} (h : TakesText reader text v) :
    (readAll reader (String.ofList text)).toOption = v := by
  have hnil := h [] [] (by simp) (by intro c hc; cases hc)
  rw [List.nil_append, List.append_nil] at hnil
  rw [readAll_toOption, String.toList_ofList, hnil]
  cases v <;> rfl

end

end DocStore.Json
