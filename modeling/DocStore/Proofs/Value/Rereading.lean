import DocStore.Proofs.Entries
import DocStore.Proofs.Json.Rereading
import DocStore.Value.Json

/-!
# Values that come back from their text

A value is written as a JSON tree and taken from the tree that is read back. It comes back as it was if nothing in it
is a timestamp, an object out of order, or a double that its printed form misses.
-/

namespace DocStore

/-! ## Lists that come back -/

theorem mapM_eq_some_iff {α β : Type} {f : α → Option β} {l : List α} {m : List β} :
    l.mapM f = some m ↔ l.map f = m.map some := by
  induction l generalizing m with
  | nil => cases m <;> simp
  | cons a l ih =>
    rw [List.mapM_cons]
    cases m with
    | nil => cases f a <;> cases l.mapM f <;> simp
    | cons b m =>
      rw [List.map_cons, List.map_cons, List.cons.injEq, ← ih]
      cases f a <;> cases l.mapM f <;> simp

theorem mapM_eq_some_self {α : Type} {f : α → Option α} {l : List α} :
    l.mapM f = some l ↔ ∀ a ∈ l, f a = some a := by
  rw [mapM_eq_some_iff, List.map_inj_left]

theorem map_mapM {α β γ : Type} (f : α → Option β) (g : β → γ) (l : List α) :
    (l.mapM f).map (List.map g) = l.mapM fun a => (f a).map g := by
  induction l with
  | nil => rfl
  | cons a l ih =>
    rw [List.mapM_cons, List.mapM_cons, ← ih]
    cases f a with
    | none => rfl
    | some b => cases l.mapM f <;> rfl

open Json (memberValue)

theorem mapM_memberValue_map {α β γ : Type} (value : β → Option α) (f : α → γ) (es : Entries β) :
    es.mapM (memberValue fun b => (value b).map f) =
      (es.mapM (memberValue value)).map (List.map fun e => (e.1, f e.2)) := by
  rw [map_mapM]
  congr 1
  funext e
  simp [memberValue, Option.map_map, Function.comp_def]

/-- The names stay, and each value is that of the member. -/
theorem map_of_mapM_memberValue {α β : Type} {value : β → Option α} {es : Entries β} {fs : Entries α}
    (h : es.mapM (memberValue value) = some fs) :
    es.map (fun e => (e.1, value e.2)) = fs.map fun e => (e.1, some e.2) := by
  have hmember : ∀ (e : String × β) (e' : String × α),
      memberValue value e = some e' → (e.1, value e.2) = (e'.1, some e'.2) := by
    rintro ⟨k, b⟩ e' he
    obtain ⟨a, ha, rfl⟩ := Option.map_eq_some_iff.mp he
    exact congrArg (Prod.mk k) ha
  rw [mapM_eq_some_iff] at h
  induction es generalizing fs with
  | nil => cases fs <;> simp at h ⊢
  | cons e es ih =>
    cases fs with
    | nil => simp at h
    | cons e' fs =>
      obtain ⟨he, h⟩ := List.cons.inj h
      rw [List.map_cons, List.map_cons, hmember e e' he, ih h]

theorem keys_of_mapM {α β : Type} {value : β → Option α} {es : Entries β} {fs : Entries α}
    (h : es.mapM (memberValue value) = some fs) : fs.keys = es.keys := by
  have hkeys := congrArg (List.map Prod.fst) (map_of_mapM_memberValue h)
  rw [List.map_map, List.map_map] at hkeys
  exact hkeys.symm

theorem memberValue_eq_some_self {β : Type} {value : β → Option β} {e : String × β} :
    memberValue value e = some e ↔ value e.2 = some e.2 := by
  obtain ⟨k, b⟩ := e
  unfold memberValue
  cases value b <;> simp

/-- Entries come back if they are in order and each value comes back. -/
theorem mapM_ofList_eq_some_self {β : Type} {value : β → Option β} {es : Entries β} :
    (es.mapM (memberValue value)).map Entries.ofList = some es ↔
      es.Increasing ∧ ∀ e ∈ es, value e.2 = some e.2 := by
  constructor
  · intro h
    obtain ⟨fs, hfs, hes⟩ := Option.map_eq_some_iff.mp h
    have hinc : es.Increasing := hes ▸ Entries.Increasing.ofList fs
    -- the names are those of `es`, so putting the entries in order changes nothing
    have hfs' : fs = es := by
      rw [← hes, Entries.ofList_of_increasing (Entries.increasing_of_keys_eq (keys_of_mapM hfs).symm hinc)]
    subst hfs'
    exact ⟨hinc, fun e he => memberValue_eq_some_self.mp (mapM_eq_some_self.mp hfs e he)⟩
  · rintro ⟨hinc, h⟩
    have hes : es.mapM (memberValue value) = some es :=
      mapM_eq_some_self.mpr fun e he => memberValue_eq_some_self.mpr (h e he)
    rw [hes, Option.map_some, Entries.ofList_of_increasing hinc]

namespace Value

/-! ## Whole numbers -/

theorem toNat_toUInt64 {n : Int64} (hn : 0 ≤ n) : (n.toUInt64.toNat : Int) = n.toInt := by
  rw [Int64.toNat_toUInt64_of_le hn]; exact Int.toNat_of_nonneg (Int64.le_iff_toInt_le.mp hn)

theorem ofNat_toUInt64 {n : Int64} (hn : 0 ≤ n) : ofNat n.toUInt64 = int n := by
  have hnat := toNat_toUInt64 hn
  have hlt : n.toUInt64.toNat < 0x8000000000000000 := by
    have := n.toInt_lt; omega
  rw [ofNat, if_pos hlt, hnat, Int64.ofInt_toInt]

theorem wholeNumber_natAbs {n : Int64} (hn : n < 0) :
    Json.wholeNumber (decide (n.toInt < 0)) n.toInt.natAbs = .neg n := by
  have hlt : n.toInt < 0 := Int64.lt_iff_toInt_lt.mp hn
  have hle := n.le_toInt
  rw [Json.wholeNumber, decide_eq_true hlt, if_pos rfl, if_pos (by omega)]
  have hneg : -(n.toInt.natAbs : Int) = n.toInt := by omega
  rw [hneg, Int64.ofInt_toInt]

theorem reread_ofInt64 (n : Int64) : (ofInt64 n).reread.map ofJson = some (int n) := by
  unfold ofInt64
  by_cases hn : n < 0
  · rw [if_pos hn, Json.reread_of_isScalar rfl, Json.scalarBack_neg, wholeNumber_natAbs hn]; rfl
  · rw [if_neg hn, Json.reread_of_isScalar rfl, Json.scalarBack_nat, Option.map_some, ofJson,
      ofNat_toUInt64 (Int64.not_lt.mp hn)]

/-! ## Doubles -/

/-- The printed form of a double reads back as the same double. -/
def KeepsText (x : Float) : Prop :=
  ((Json.parse (Json.compact (.float x))).toOption.map ofJson).bind toFloat? = some x

instance (x : Float) : Decidable (KeepsText x) :=
  inferInstanceAs (Decidable (_ = _))

theorem parse_compact (j : Json) : (Json.parse (Json.compact j)).toOption = Json.readBack Json.maxNesting j :=
  Json.readAll_of_takesText (Json.takesText_renderIn .compact Json.maxNesting j)

/-- A double that comes back at all comes back as a double. -/
theorem reread_float_iff (x : Float) :
    (toJson (.float x)).reread.map ofJson = some (.float x) ↔ KeepsText x := by
  rw [KeepsText, parse_compact, Json.readBack_of_isScalar _ rfl, toJson]
  cases hx : x.isFinite with
  | true =>
    obtain ⟨y, hy⟩ := Json.scalarBack_float hx
    rw [if_pos rfl, Json.reread_of_isScalar rfl, hy]
    cases y <;> simp [ofJson, toFloat?]
  | false =>
    -- a double without digits is written as null, which is no number
    have hnull : Json.scalarBack (.float x) = some .null := by
      rw [Json.scalarBack, Json.renderScalar_float_eq_null hx, ← Json.scalarBack, Json.scalarBack_null]
    rw [hnull, if_neg (by decide), Json.reread_of_isScalar rfl, Json.scalarBack_null]
    simp [ofJson, toFloat?]

/-! ## All values -/

mutual
def parts : Value → List Value
  | .array items => .array items :: itemsParts items
  | .object fields => .object fields :: fieldsParts fields
  | v => [v]

def itemsParts : List Value → List Value
  | [] => []
  | v :: rest => v.parts ++ itemsParts rest

def fieldsParts : List (String × Value) → List Value
  | [] => []
  | (_, v) :: rest => v.parts ++ fieldsParts rest
end

/-- The value itself, apart from what it holds, is written in a form that says all about it. -/
def Lasting : Value → Prop
  | float x => KeepsText x
  | time _ => False
  | object fields => Entries.Increasing fields
  | _ => True

instance : DecidablePred Lasting
  | float x => inferInstanceAs (Decidable (KeepsText x))
  | time _ => isFalse id
  | object fields => inferInstanceAs (Decidable (Entries.Increasing fields))
  | null | bool _ | int _ | str _ | array _ => isTrue trivial

theorem mem_itemsParts {u : Value} {items : List Value} : u ∈ itemsParts items ↔ ∃ v ∈ items, u ∈ v.parts := by
  induction items with
  | nil => simp [itemsParts]
  | cons v items ih => simp [itemsParts, ih]

theorem mem_fieldsParts {u : Value} {fields : List (String × Value)} :
    u ∈ fieldsParts fields ↔ ∃ e ∈ fields, u ∈ e.2.parts := by
  induction fields with
  | nil => simp [fieldsParts]
  | cons e fields ih =>
    obtain ⟨name, v⟩ := e
    simp only [fieldsParts, List.mem_append, ih, List.mem_cons, or_and_right, exists_or, exists_eq_left]

def reread (v : Value) : Option Value :=
  v.toJson.reread.map ofJson

theorem itemsToJson_eq (items : List Value) : itemsToJson items = items.map toJson := by
  induction items with
  | nil => rfl
  | cons v items ih => rw [itemsToJson, ih]; rfl

theorem fieldsToJson_eq (fields : List (String × Value)) :
    fieldsToJson fields = fields.map fun e => (e.1, toJson e.2) := by
  induction fields with
  | nil => rfl
  | cons e fields ih => rw [fieldsToJson, ih]; rfl

theorem ofItems_eq (items : List Json) : ofItems items = items.map ofJson := by
  induction items with
  | nil => rfl
  | cons j items ih => rw [ofItems, ih]; rfl

theorem ofMembers_eq (members : List (String × Json)) :
    ofMembers members = members.map fun m => (m.1, ofJson m.2) := by
  induction members with
  | nil => rfl
  | cons m members ih => rw [ofMembers, ih]; rfl

end Value

namespace Json.Source

def value? (src : Source) : Option Value :=
  src.json?.map Value.ofJson

theorem value?_array (items : List Source) : (array items).value? = (items.mapM value?).map .array := by
  have hmap : items.mapM value? = (items.mapM json?).map (List.map Value.ofJson) := (map_mapM ..).symm
  rw [value?, json?_array, hmap, Option.map_map, Option.map_map]
  congr 1
  funext js
  simp [Value.ofJson, Value.ofItems_eq]

theorem value?_object (members : List (String × Source)) :
    (object members).value? = (members.mapM (memberValue value?)).map fun es => .object (Entries.ofList es) := by
  have hmap : members.mapM (memberValue value?) =
      (members.mapM (memberValue json?)).map (List.map fun m => (m.1, Value.ofJson m.2)) :=
    mapM_memberValue_map json? Value.ofJson members
  rw [value?, json?_object, hmap, Option.map_map, Option.map_map]
  congr 1
  funext js
  simp [Value.ofJson, Value.ofMembers_eq]

end Json.Source

namespace Value

theorem reread_eq (v : Value) : v.reread = v.toJson.source.value? := by
  rw [reread, Json.Source.value?, Json.json?_source]

theorem source_array (items : List Value) :
    (array items).toJson.source = .array (items.map fun v => v.toJson.source) := by
  rw [toJson, Json.source, itemsToJson_eq, Json.itemsSource_eq, List.map_map]; rfl

theorem source_object (fields : List (String × Value)) :
    (object fields).toJson.source = .object (fields.map fun e => (e.1, e.2.toJson.source)) := by
  rw [toJson, Json.source, fieldsToJson_eq, Json.membersSource_eq, List.map_map]; rfl

theorem reread_array (items : List Value) : reread (.array items) = (items.mapM reread).map .array := by
  have hitems : items.mapM reread = items.mapM fun v => v.toJson.source.value? :=
    congrArg (fun f => items.mapM f) (funext reread_eq)
  rw [reread_eq, source_array, Json.Source.value?_array, List.mapM_map, hitems]; rfl

def rereadFields (fields : List (String × Value)) : Option (Entries Value) :=
  (fields.mapM (memberValue reread)).map Entries.ofList

theorem rereadFields_eq (fields : List (String × Value)) :
    rereadFields fields = (fields.mapM (memberValue fun v => v.toJson.reread)).map fun ms =>
      Entries.ofList (ms.map fun m => (m.1, ofJson m.2)) := by
  have hmap : fields.mapM (memberValue reread) =
      (fields.mapM (memberValue fun v => v.toJson.reread)).map (List.map fun m => (m.1, ofJson m.2)) :=
    mapM_memberValue_map _ ofJson fields
  rw [rereadFields, hmap, Option.map_map]; rfl

theorem reread_object (fields : List (String × Value)) :
    reread (.object fields) = (rereadFields fields).map .object := by
  have hmembers : fields.mapM (memberValue reread) =
      (fields.map fun e => (e.1, e.2.toJson.source)).mapM (memberValue Json.Source.value?) := by
    rw [List.mapM_map]
    congr 1
    funext e
    exact congrArg (Option.map _) (reread_eq e.2)
  rw [reread_eq, source_object, Json.Source.value?_object, ← hmembers, rereadFields, Option.map_map]; rfl

/-- A value that holds no others comes back if it is lasting itself. -/
theorem scalar_reread {v : Value} (hv : v.toJson.isScalar = true) : v.reread = some v ↔ v.Lasting := by
  have hback : v.reread = (Json.scalarBack v.toJson).map ofJson := by
    rw [reread, Json.reread_of_isScalar hv]
  cases v with
  | null => simp [hback, toJson, Json.scalarBack_null, ofJson, Lasting]
  | bool b => simp [hback, toJson, Json.scalarBack_bool, ofJson, Lasting]
  | str t => simp [hback, toJson, Json.scalarBack_str, ofJson, Lasting]
  | time t => simp [hback, toJson, Json.scalarBack_str, ofJson, Lasting]
  | int n => simp [reread, toJson, reread_ofInt64, Lasting]
  | float x => rw [reread, reread_float_iff, Lasting]
  | array items => cases hv
  | object fields => cases hv

/-! ## From the parts to the whole -/

theorem parts_of_isScalar {v : Value} (hv : v.toJson.isScalar = true) : v.parts = [v] := by
  cases v with
  | array items => cases hv
  | object fields => cases hv
  | _ => rfl

/-- `back` brings arrays and objects back by what they hold, putting objects in order, and brings the values that hold no
others back as they were exactly if they satisfy `p`. -/
structure Rebuilds (back : Value → Option Value) (p : Value → Prop) : Prop where
  array : ∀ items, back (.array items) = (items.mapM back).map .array
  object : ∀ fields, back (.object fields) = ((fields.mapM (memberValue back)).map Entries.ofList).map .object
  scalar : ∀ v, v.toJson.isScalar = true → (back v = some v ↔ p v)
  arrays : ∀ items, p (.array items)
  objects : ∀ fields, p (.object fields) ↔ Entries.Increasing fields

theorem rebuilds_reread : Rebuilds reread Lasting where
  array := reread_array
  object := reread_object
  scalar _ := scalar_reread
  arrays _ := trivial
  objects _ := Iff.rfl

namespace Rebuilds

variable {back : Value → Option Value} {p : Value → Prop}

theorem scalar_eq_some_self (h : Rebuilds back p) {v : Value} (hv : v.toJson.isScalar = true) :
    back v = some v ↔ ∀ u ∈ v.parts, p u := by
  rw [parts_of_isScalar hv, List.forall_mem_singleton]
  exact h.scalar v hv

theorem array_eq_some_self (h : Rebuilds back p) {items : List Value}
    (hitems : ∀ v ∈ items, (back v = some v ↔ ∀ u ∈ v.parts, p u)) :
    back (.array items) = some (.array items) ↔ ∀ u ∈ parts (.array items), p u := by
  have hback : back (.array items) = some (.array items) ↔ items.mapM back = some items := by
    rw [h.array]; cases items.mapM back <;> simp
  rw [hback, mapM_eq_some_self, parts, List.forall_mem_cons]
  constructor
  · intro hall
    refine ⟨h.arrays items, fun u hu => ?_⟩
    obtain ⟨v, hv, hu⟩ := mem_itemsParts.mp hu
    exact (hitems v hv).mp (hall v hv) u hu
  · rintro ⟨-, hall⟩ v hv
    exact (hitems v hv).mpr fun u hu => hall u (mem_itemsParts.mpr ⟨v, hv, hu⟩)

theorem object_eq_some_self (h : Rebuilds back p) {fields : List (String × Value)}
    (hfields : ∀ e ∈ fields, (back e.2 = some e.2 ↔ ∀ u ∈ e.2.parts, p u)) :
    back (.object fields) = some (.object fields) ↔ ∀ u ∈ parts (.object fields), p u := by
  have hback : back (.object fields) = some (.object fields) ↔
      (fields.mapM (memberValue back)).map Entries.ofList = some fields := by
    rw [h.object]; cases (fields.mapM (memberValue back)).map Entries.ofList <;> simp
  rw [hback, mapM_ofList_eq_some_self, parts, List.forall_mem_cons, h.objects]
  constructor
  · rintro ⟨hinc, hall⟩
    refine ⟨hinc, fun u hu => ?_⟩
    obtain ⟨e, he, hu⟩ := mem_fieldsParts.mp hu
    exact (hfields e he).mp (hall e he) u hu
  · rintro ⟨hinc, hall⟩
    exact ⟨hinc, fun e he => (hfields e he).mpr fun u hu => hall u (mem_fieldsParts.mpr ⟨e, he, hu⟩)⟩

mutual
/-- A value comes back as it was exactly if all that stands in it satisfies the property. -/
theorem eq_some_self_iff (h : Rebuilds back p) : (v : Value) → (back v = some v ↔ ∀ u ∈ v.parts, p u)
  | .array items => h.array_eq_some_self (items_iff h items)
  | .object fields => h.object_eq_some_self (fields_iff h fields)
  | .null | .bool _ | .str _ | .time _ => h.scalar_eq_some_self rfl
  | .int n => h.scalar_eq_some_self (by unfold toJson ofInt64; split <;> rfl)
  | .float x => h.scalar_eq_some_self (by unfold toJson; split <;> rfl)

theorem items_iff (h : Rebuilds back p) : (items : List Value) → ∀ v ∈ items, (back v = some v ↔ ∀ u ∈ v.parts, p u)
  | [] => by simp
  | w :: items => by
    intro v hv
    rcases List.mem_cons.mp hv with hv | hv
    · rw [hv]; exact eq_some_self_iff h w
    · exact items_iff h items v hv

theorem fields_iff (h : Rebuilds back p) : (fields : List (String × Value)) →
    ∀ e ∈ fields, (back e.2 = some e.2 ↔ ∀ u ∈ e.2.parts, p u)
  | [] => by simp
  | (name, w) :: fields => by
    intro e he
    rcases List.mem_cons.mp he with he | he
    · rw [he]; exact eq_some_self_iff h w
    · exact fields_iff h fields e he
end

end Rebuilds

/-- A value comes back as it was exactly if all that stands in it is lasting. -/
theorem reread_eq_some_self (v : Value) : v.reread = some v ↔ ∀ u ∈ v.parts, u.Lasting :=
  rebuilds_reread.eq_some_self_iff v

end Value

end DocStore
