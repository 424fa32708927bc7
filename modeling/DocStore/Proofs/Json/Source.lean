import DocStore.Proofs.Json.Containers

/-!
# Numbers as they are written

The source of a text is its tree with each number left as its literal. Reading a text as a tree is the same as reading
its source and then evaluating the literals (`follows_readTree`), and likewise for objects of a given shape.
-/

namespace DocStore.Json

inductive Source where
  | number (lit : Literal)
  /-- A string, a truth value or null. -/
  | word (j : Json)
  | array (items : List Source)
  | object (members : List (String × Source))

/-! ## Reading a source -/

section
variable {negative : Bool} {s rest : List Char} {c : Char} {lit : Literal}

theorem length_lt_of_scanLiteral (h : scanLiteral negative s = .ok (lit, rest)) : rest.length < s.length :=
  scanLiteral_length_lt h

theorem length_le_length_cons (c : Char) (rest : List Char) : rest.length ≤ (c :: rest).length :=
  Nat.le_succ _

theorem length_le_of_skipBlanks (h : skipBlanks s = c :: rest) : rest.length ≤ s.length :=
  Nat.le_of_lt (length_lt_of_skipBlanks h)

theorem length_cons_le_of_skipBlanks (h : skipBlanks s = c :: rest) : (c :: rest).length ≤ s.length :=
  length_lt_of_skipBlanks h

end

def readLiteral (negative : Bool) : Reader Source := fun s =>
  match h : scanLiteral negative s with
  | .error fault => .error fault
  | .ok (lit, rest) => .ok ⟨.number lit, rest, length_lt_of_scanLiteral h⟩

def readLeaf : Reader Source := fun s =>
  match s with
  | [] => .error ⟨.endInValue, [], 0⟩
  | c :: rest =>
    if c = '-' then (readLiteral true rest).map (·.widen (length_le_length_cons c rest))
    else if Decimal.isDigit c then readLiteral false (c :: rest)
    else (readScalar (c :: rest)).map (·.map .word)

/-- A reader of any value, made of one for values without items. -/
def readWith {α : Type} (scalar : Reader α) (array : List α → α) (object : List (String × α) → α) (depth : Nat) :
    Reader α := fun s =>
  match h : skipBlanks s with
  | [] => .error ⟨.endInValue, [], 0⟩
  | c :: rest =>
    if c = '[' then
      match depth with
      | 0 => .error ⟨.tooDeep, c :: rest, 1⟩
      | depth + 1 => (readItems (readWith scalar array object depth) true rest).map fun t =>
          (t.map array).widen (length_le_of_skipBlanks h)
    else if c = '\x7b' then
      match depth with
      | 0 => .error ⟨.tooDeep, c :: rest, 1⟩
      | depth + 1 => (readMembers (readWith scalar array object depth) true rest).map fun t =>
          (t.map object).widen (length_le_of_skipBlanks h)
    else (scalar (c :: rest)).map (·.widen (length_cons_le_of_skipBlanks h))

theorem readTree_eq (depth : Nat) : readTree depth = readWith readScalar .array .object depth := by
  induction depth with
  | zero => funext s; unfold readTree readWith; rfl
  | succ depth ih =>
    funext s
    unfold readTree readWith
    dsimp only
    rewrite [ih]; rfl

def readSource (depth : Nat) : Reader Source :=
  readWith readLeaf .array .object depth

section
variable {α : Type} {scalar : Reader α} {array : List α → α} {object : List (String × α) → α} (depth : Nat)
  {s rest : List Char} {c : Char}

theorem outcome_readWith_nil (h : skipBlanks s = []) : outcome (readWith scalar array object depth s) = none := by
  unfold readWith
  split
  · rfl
  · rename_i h'; rw [h] at h'; cases h'

theorem outcome_readWith_array (h : skipBlanks s = '[' :: rest) :
    outcome (readWith scalar array object depth s) = match depth with
      | 0 => none
      | depth + 1 => (outcome (readItems (readWith scalar array object depth) true rest)).map fun p =>
          (array p.1, p.2) := by
  unfold readWith
  split
  · rename_i h'; rw [h] at h'; cases h'
  · rename_i h'
    rw [h] at h'; cases h'
    rw [if_pos rfl]
    cases depth with
    | zero => rfl
    | succ depth => exact outcome_map _ array (fun _ => ⟨rfl, rfl⟩) _

theorem outcome_readWith_object (h : skipBlanks s = '\x7b' :: rest) :
    outcome (readWith scalar array object depth s) = match depth with
      | 0 => none
      | depth + 1 => (outcome (readMembers (readWith scalar array object depth) true rest)).map fun p =>
          (object p.1, p.2) := by
  unfold readWith
  split
  · rename_i h'; rw [h] at h'; cases h'
  · rename_i h'
    rw [h] at h'; cases h'
    rw [if_neg (by decide), if_pos rfl]
    cases depth with
    | zero => rfl
    | succ depth => exact outcome_map _ object (fun _ => ⟨rfl, rfl⟩) _

theorem outcome_readWith_scalar (h : skipBlanks s = c :: rest) (ha : c ≠ '[') (ho : c ≠ '\x7b') :
    outcome (readWith scalar array object depth s) = outcome (scalar (c :: rest)) := by
  unfold readWith
  split
  · rename_i h'; rw [h] at h'; cases h'
  · rename_i h'
    rw [h] at h'; cases h'
    rw [if_neg ha, if_neg ho]
    exact outcome_widen _ _

end

/-! ## One reader after another -/

/-- The first reader takes what the second one takes, as `f` has it, and nothing where `f` has nothing. -/
def Follows {α β : Type} (first : Reader α) (second : Reader β) (f : β → Option α) : Prop :=
  ∀ s, outcome (first s) = (outcome (second s)).bind fun p => (f p.1).map fun a => (a, p.2)

section
variable {α β γ : Type} {item : Reader α} {item' : Reader β} {f : β → Option α}

theorem Follows.map (h : Follows item item' f) (g : α → γ) :
    Follows (fun s => (item s).map (·.map g)) item' fun b => (f b).map g := by
  intro s
  rw [outcome_map _ g fun _ => ⟨rfl, rfl⟩, h s]
  cases outcome (item' s) with
  | none => rfl
  | some p => simp [Option.map_map, Function.comp_def]

theorem Follows.items (h : Follows item item' f) {first : Bool} {s : List Char} :
    outcome (readItems item first s) =
      (outcome (readItems item' first s)).bind fun p => (p.1.mapM f).map fun vs => (vs, p.2) := by
  -- on the length of the text, which each item shortens
  induction hn : s.length using Nat.strongRecOn generalizing first s with
  | _ n ih =>
    cases hnext : Shape.list.next first s with
    | error fault => rw [readItems, readItems, hnext]; rfl
    | ok next =>
      cases next with
      | done rest hlt => rw [readItems, readItems, hnext]; rfl
      | item start hle =>
        rw [outcome_readItems_item item hnext, outcome_readItems_item item' hnext, h start]
        cases hb : item' start with
        | error fault => rfl
        | ok b =>
          have hlt := b.shorter
          simp only [outcome_ok, Option.bind_some]
          cases hv : f b.value with
          | none =>
            cases outcome (readItems item' false b.rest) <;> simp [hv]
          | some a =>
            simp only [Option.map_some, Option.bind_some]
            rw [@ih b.rest.length (by omega) false b.rest rfl]
            cases outcome (readItems item' false b.rest) with
            | none => rfl
            | some p => cases hvs : p.1.mapM f <;> simp [hv, hvs]

theorem Follows.members (h : Follows item item' f) {first : Bool} {s : List Char} :
    outcome (readMembers item first s) =
      (outcome (readMembers item' first s)).bind fun p =>
        (p.1.mapM (memberValue f)).map fun vs => (vs, p.2) := by
  induction hn : s.length using Nat.strongRecOn generalizing first s with
  | _ n ih =>
    cases hnext : Shape.object.next first s with
    | error fault => rw [readMembers, readMembers, hnext]; rfl
    | ok next =>
      cases next with
      | done rest hlt => rw [readMembers, readMembers, hnext]; rfl
      | item start hle =>
        rw [outcome_readMembers_member item hnext, outcome_readMembers_member item' hnext]
        cases readName start with
        | error fault => rfl
        | ok name =>
          have hname := name.shorter
          simp only [outcome_ok, Option.bind_some]
          cases readColon name.rest with
          | error fault => rfl
          | ok colon =>
            have hcolon := colon.shorter
            simp only [outcome_ok, Option.bind_some, h colon.rest]
            cases item' colon.rest with
            | error fault => rfl
            | ok b =>
              have hlt := b.shorter
              simp only [outcome_ok, Option.bind_some]
              cases hv : f b.value with
              | none =>
                cases outcome (readMembers item' false b.rest) <;> simp [memberValue, hv]
              | some a =>
                simp only [Option.map_some, Option.bind_some]
                rw [@ih b.rest.length (by omega) false b.rest rfl]
                cases outcome (readMembers item' false b.rest) with
                | none => rfl
                | some p => cases hvs : p.1.mapM (memberValue f) <;> simp [memberValue, hv, hvs]

theorem Follows.anyOf {scalar : Reader α} {scalar' : Reader β} {array : List α → α} {array' : List β → β}
    {object : List (String × α) → α} {object' : List (String × β) → β} (hscalar : Follows scalar scalar' f)
    (harray : ∀ items, f (array' items) = (items.mapM f).map array)
    (hobject : ∀ members, f (object' members) = (members.mapM (memberValue f)).map object) (depth : Nat) :
    Follows (readWith scalar array object depth) (readWith scalar' array' object' depth) f := by
  induction depth using Nat.strongRecOn with
  | ind depth ih =>
    intro s
    cases hskip : skipBlanks s with
    | nil => rw [outcome_readWith_nil depth hskip, outcome_readWith_nil depth hskip]; rfl
    | cons c rest =>
      by_cases ha : c = '['
      · subst ha
        rw [outcome_readWith_array depth hskip, outcome_readWith_array depth hskip]
        cases depth with
        | zero => rfl
        | succ depth =>
          dsimp only
          rw [(ih depth (Nat.lt_succ_self depth)).items]
          cases outcome (readItems (readWith scalar' array' object' depth) true rest) with
          | none => rfl
          | some p => simp [harray, Option.map_map, Function.comp_def]
      by_cases ho : c = '\x7b'
      · subst ho
        rw [outcome_readWith_object depth hskip, outcome_readWith_object depth hskip]
        cases depth with
        | zero => rfl
        | succ depth =>
          dsimp only
          rw [(ih depth (Nat.lt_succ_self depth)).members]
          cases outcome (readMembers (readWith scalar' array' object' depth) true rest) with
          | none => rfl
          | some p => simp [hobject, Option.map_map, Function.comp_def]
      rw [outcome_readWith_scalar depth hskip ha ho, outcome_readWith_scalar depth hskip ha ho, hscalar]

end

/-! ## More nesting -/

def Extends {α : Type} (item item' : Reader α) : Prop :=
  ∀ s p, outcome (item s) = some p → outcome (item' s) = some p

section
variable {α : Type} {item item' : Reader α}

theorem length_lt_of_outcome {s : List Char} {p : α × List Char} (h : outcome (item s) = some p) :
    p.2.length < s.length := by
  obtain ⟨taken, -, -, hrest⟩ := ok_of_outcome h
  rw [← hrest]; exact taken.shorter

theorem Extends.items (h : Extends item item') (first : Bool) (s : List Char) (p : List α × List Char)
    (hp : outcome (readItems item first s) = some p) : outcome (readItems item' first s) = some p := by
  induction hn : s.length using Nat.strongRecOn generalizing first s p with
  | _ n ih =>
    cases hnext : Shape.list.next first s with
    | error fault => rw [readItems, hnext] at hp; cases hp
    | ok next =>
      cases next with
      | done rest hlt => rw [readItems, hnext] at hp ⊢; exact hp
      | item start hle =>
        rw [outcome_readItems_item item hnext] at hp
        obtain ⟨v, hv, hrest⟩ := Option.bind_eq_some_iff.mp hp
        obtain ⟨vs, hvs, rfl⟩ := Option.map_eq_some_iff.mp hrest
        have hlt := length_lt_of_outcome hv
        rw [outcome_readItems_item item' hnext, h _ _ hv, Option.bind_some, ih _ (by omega) false v.2 vs hvs rfl]
        rfl

theorem Extends.members (h : Extends item item') (first : Bool) (s : List Char) (p : List (String × α) × List Char)
    (hp : outcome (readMembers item first s) = some p) : outcome (readMembers item' first s) = some p := by
  induction hn : s.length using Nat.strongRecOn generalizing first s p with
  | _ n ih =>
    cases hnext : Shape.object.next first s with
    | error fault => rw [readMembers, hnext] at hp; cases hp
    | ok next =>
      cases next with
      | done rest hlt => rw [readMembers, hnext] at hp ⊢; exact hp
      | item start hle =>
        rw [outcome_readMembers_member item hnext] at hp
        obtain ⟨name, hname, hp⟩ := Option.bind_eq_some_iff.mp hp
        obtain ⟨colon, hcolon, hp⟩ := Option.bind_eq_some_iff.mp hp
        obtain ⟨v, hv, hrest⟩ := Option.bind_eq_some_iff.mp hp
        obtain ⟨vs, hvs, rfl⟩ := Option.map_eq_some_iff.mp hrest
        have hlt := length_lt_of_outcome hname
        have hlt' := length_lt_of_outcome hcolon
        have hlt'' := length_lt_of_outcome hv
        rw [outcome_readMembers_member item' hnext, hname, Option.bind_some, hcolon, Option.bind_some, h _ _ hv,
          Option.bind_some, ih _ (by omega) false v.2 vs hvs rfl]
        rfl

/-- What is read under one limit on nesting is read under each higher one. -/
theorem Extends.readWith {scalar : Reader α} {array : List α → α} {object : List (String × α) → α} {depth depth' : Nat}
    (hdepth : depth ≤ depth') :
    Extends (readWith scalar array object depth) (readWith scalar array object depth') := by
  induction depth generalizing depth' with
  | zero =>
    intro s p hp
    cases hskip : skipBlanks s with
    | nil => rw [outcome_readWith_nil 0 hskip] at hp; cases hp
    | cons c rest =>
      by_cases ha : c = '['
      · subst ha; rw [outcome_readWith_array 0 hskip] at hp; cases hp
      by_cases ho : c = '\x7b'
      · subst ho; rw [outcome_readWith_object 0 hskip] at hp; cases hp
      rw [outcome_readWith_scalar 0 hskip ha ho] at hp
      rw [outcome_readWith_scalar depth' hskip ha ho, hp]
  | succ depth ih =>
    obtain ⟨depth', rfl⟩ : ∃ d, depth' = d + 1 := ⟨depth' - 1, by omega⟩
    have hitem := ih (Nat.le_of_succ_le_succ hdepth)
    intro s p hp
    cases hskip : skipBlanks s with
    | nil => rw [outcome_readWith_nil _ hskip] at hp; cases hp
    | cons c rest =>
      by_cases ha : c = '['
      · subst ha
        rw [outcome_readWith_array _ hskip] at hp ⊢
        obtain ⟨vs, hvs, rfl⟩ := Option.map_eq_some_iff.mp hp
        exact Option.map_eq_some_iff.mpr ⟨vs, hitem.items true rest vs hvs, rfl⟩
      by_cases ho : c = '\x7b'
      · subst ho
        rw [outcome_readWith_object _ hskip] at hp ⊢
        obtain ⟨vs, hvs, rfl⟩ := Option.map_eq_some_iff.mp hp
        exact Option.map_eq_some_iff.mpr ⟨vs, hitem.members true rest vs hvs, rfl⟩
      rw [outcome_readWith_scalar _ hskip ha ho] at hp
      rw [outcome_readWith_scalar _ hskip ha ho, hp]

end

/-! ## Evaluating the literals -/

namespace Source

def members? : Source → Option (List (String × Source))
  | object members => some members
  | _ => none

mutual

/-- The tree with the value of each number, unless one of them is too large. -/
def json? : Source → Option Json
  | number lit => lit.value.toOption
  | word j => some j
  | array items => (itemsJson? items).map .array
  | object members => (membersJson? members).map .object

def itemsJson? : List Source → Option (List Json)
  | [] => some []
  | src :: rest => do
    let v ← src.json?
    let vs ← itemsJson? rest
    return v :: vs

def membersJson? : List (String × Source) → Option (List (String × Json))
  | [] => some []
  | (name, src) :: rest => do
    let v ← src.json?
    let vs ← membersJson? rest
    return (name, v) :: vs

end

theorem itemsJson?_eq (items : List Source) : itemsJson? items = items.mapM json? := by
  induction items with
  | nil => rfl
  | cons src items ih => rw [itemsJson?, ih, List.mapM_cons]

theorem membersJson?_eq (members : List (String × Source)) :
    membersJson? members = members.mapM (memberValue json?) := by
  induction members with
  | nil => rfl
  | cons m members ih =>
    obtain ⟨name, src⟩ := m
    rw [membersJson?, ih, List.mapM_cons, memberValue]
    cases src.json? <;> rfl

theorem json?_array (items : List Source) : (array items).json? = (items.mapM json?).map .array := by
  rw [json?, itemsJson?_eq]

theorem json?_object (members : List (String × Source)) :
    (object members).json? = (members.mapM (memberValue json?)).map .object := by
  rw [json?, membersJson?_eq]

end Source

open Source (json?)

theorem outcome_readLiteral {negative : Bool} {s rest : List Char} {lit : Literal}
    (h : scanLiteral negative s = .ok (lit, rest)) :
    outcome (readLiteral negative s) = some (.number lit, rest) := by
  unfold readLiteral
  split <;> rename_i h' <;> rw [h] at h' <;> cases h'
  rfl

theorem outcome_readLiteral_error {negative : Bool} {s : List Char} {fault : Fault}
    (h : scanLiteral negative s = .error fault) : outcome (readLiteral negative s) = none := by
  unfold readLiteral
  split <;> rename_i h' <;> rw [h] at h' <;> cases h'
  rfl

theorem follows_readLiteral (negative : Bool) : Follows (readNumber negative) (readLiteral negative) json? := by
  intro s
  cases h : scanLiteral negative s with
  | error fault => rw [outcome_readNumber_error h, outcome_readLiteral_error h]; rfl
  | ok r => rw [outcome_readNumber h, outcome_readLiteral h]; rfl

section
variable {c : Char}

theorem outcome_readLeaf_minus (rest : List Char) :
    outcome (readLeaf ('-' :: rest)) = outcome (readLiteral true rest) :=
  outcome_widen _ _

theorem readLeaf_digit (hc : Decimal.isDigit c = true) (rest : List Char) :
    readLeaf (c :: rest) = readLiteral false (c :: rest) := by
  rw [readLeaf, if_neg (ne_of_isDigit hc (by decide)), if_pos hc]

theorem outcome_readLeaf_word (hminus : c ≠ '-') (hdigit : Decimal.isDigit c = false) (rest : List Char) :
    outcome (readLeaf (c :: rest)) = (outcome (readScalar (c :: rest))).map fun p => (.word p.1, p.2) := by
  rw [readLeaf, if_neg hminus, if_neg (by rw [hdigit]; exact Bool.false_ne_true)]
  exact outcome_map _ Source.word (fun _ => ⟨rfl, rfl⟩) _

end

theorem follows_readLeaf : Follows readScalar readLeaf json? := by
  intro s
  cases s with
  | nil => rfl
  | cons c rest =>
    by_cases hminus : c = '-'
    · subst hminus; rw [outcome_readScalar_minus, outcome_readLeaf_minus, follows_readLiteral]
    cases hdigit : Decimal.isDigit c with
    | true => rw [readScalar_digit hdigit, readLeaf_digit hdigit, follows_readLiteral]
    | false =>
      rw [outcome_readLeaf_word hminus hdigit]
      cases outcome (readScalar (c :: rest)) <;> rfl

theorem follows_readTree (depth : Nat) : Follows (readTree depth) (readSource depth) json? := by
  rw [readTree_eq]
  exact follows_readLeaf.anyOf Source.json?_array Source.json?_object depth

theorem members?_of_readLeaf {s rest : List Char} {src : Source} (h : outcome (readLeaf s) = some (src, rest)) :
    src.members? = none := by
  cases s with
  | nil => cases h
  | cons c cs =>
    unfold readLeaf at h
    dsimp only at h
    have hliteral : ∀ negative t src rest,
        outcome (readLiteral negative t) = some (src, rest) → src.members? = none := by
      intro negative t src rest ht
      unfold readLiteral at ht
      split at ht <;> cases ht
      rfl
    split at h
    · rw [outcome_widen] at h; exact hliteral _ _ _ _ h
    · split at h
      · exact hliteral _ _ _ _ h
      · rw [outcome_map _ Source.word fun _ => ⟨rfl, rfl⟩] at h
        obtain ⟨p, -, hp⟩ := Option.map_eq_some_iff.mp h
        cases hp; rfl

/-- An object of a given shape is read as its source is, and then its members are evaluated. -/
theorem Follows.objectOf {α : Type} {item : Nat → Reader α} {f : Source → Option α}
    (h : ∀ depth, Follows (item depth) (readSource depth) f) (depth : Nat) :
    Follows (readObjectOf item depth) (readSource depth) fun src => src.members?.bind (·.mapM (memberValue f)) := by
  intro s
  unfold readSource
  cases hskip : skipBlanks s with
  | nil => rw [outcome_readWith_nil depth hskip, outcome_readObjectOf_of_ne item depth (by rw [hskip]; nofun)]; rfl
  | cons c rest =>
    by_cases ho : c = '\x7b'
    · subst ho
      rw [outcome_readWith_object depth hskip, outcome_readObjectOf item depth hskip]
      cases depth with
      | zero => rfl
      | succ depth =>
        dsimp only
        rw [(h depth).members, readSource]
        cases outcome (readMembers (readWith readLeaf Source.array Source.object depth) true rest) <;> rfl
    rw [outcome_readObjectOf_of_ne item depth (by rw [hskip]; rintro _ ⟨⟩; exact ho rfl)]
    by_cases ha : c = '['
    · subst ha
      rw [outcome_readWith_array depth hskip]
      cases depth with
      | zero => rfl
      | succ depth =>
        dsimp only
        cases outcome (readItems (readWith readLeaf Source.array Source.object depth) true rest) <;> rfl
    · rw [outcome_readWith_scalar depth hskip ha ho]
      cases hleaf : outcome (readLeaf (c :: rest)) with
      | none => rfl
      | some p => simp [members?_of_readLeaf hleaf]

/-! ## Whole texts -/

theorem Follows.readAll {α β : Type} {first : Reader α} {second : Reader β} {f : β → Option α}
    (h : Follows first second f) (text : String) :
    (readAll first text).toOption = (readAll second text).toOption.bind f := by
  rw [readAll_toOption, readAll_toOption, h]
  cases outcome (second text.toList) with
  | none => rfl
  | some p =>
    simp only [Option.bind_some]
    split <;> cases hf : f p.1 <;> simp_all

def Says (text : String) (src : Source) : Prop :=
  ∃ depth, (readAll (readSource depth) text).toOption = some src

theorem readSource_mono {depth depth' : Nat} (hdepth : depth ≤ depth') {text : String} {src : Source}
    (h : (readAll (readSource depth) text).toOption = some src) :
    (readAll (readSource depth') text).toOption = some src := by
  rw [readAll_toOption] at h ⊢
  obtain ⟨p, hp, h⟩ := Option.bind_eq_some_iff.mp h
  have hmore : outcome (readSource depth' text.toList) = some p := Extends.readWith hdepth _ p hp
  rw [hmore, Option.bind_some, h]

theorem Says.unique {text : String} {src src' : Source} (h : Says text src) (h' : Says text src') : src = src' := by
  obtain ⟨depth, h⟩ := h
  obtain ⟨depth', h'⟩ := h'
  have hmax := readSource_mono (Nat.le_max_left depth depth') h
  have hmax' := readSource_mono (Nat.le_max_right depth depth') h'
  rw [hmax] at hmax'
  exact Option.some.inj hmax'

end DocStore.Json
