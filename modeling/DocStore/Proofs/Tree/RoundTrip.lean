import DocStore.Proofs.Tree.Changes
import DocStore.Proofs.Value.Rereading
import DocStore.Tree.Text

/-!
# Trees that come back from their text

The text of a tree is an object of collections, each an object of records. Its reader allows a certain nesting in all,
of which the tree and the collection take the two outermost levels.
-/

namespace DocStore

open Json (memberValue memberText within deepest TakesText)

theorem Json.deepest_map {β γ : Type} (nest : γ → Nat) (f : β → γ) (items : List β) :
    deepest nest (items.map f) = deepest (fun b => nest (f b)) items := by
  induction items with
  | nil => rfl
  | cons b items ih => rw [List.map_cons, deepest, deepest, ih]

/-- An object whose members are made of other data. -/
theorem Json.takesText_objectOf {α β : Type} (toJson : β → Json) {item : Nat → Reader α} {value : β → Option α}
    (h : ∀ form depth b,
      TakesText (item depth) (renderIn form (toJson b)) (within depth (toJson b).nesting (value b)))
    (form : Form) (depth : Nat) (es : Entries β) :
    TakesText (readObjectOf item depth) (renderIn form (.object (es.map fun e => (e.1, toJson e.2))))
      (within depth (Json.object (es.map fun e => (e.1, toJson e.2))).nesting (es.mapM (memberValue value))) := by
  have hnest : (Json.object (es.map fun e => (e.1, toJson e.2))).nesting =
      deepest (fun e => (toJson e.2).nesting) es + 1 := by
    rw [nesting, membersNesting_eq, deepest_map]
  have htexts : (es.map fun e => (e.1, toJson e.2)).map (memberText form (renderIn form.deeper)) =
      es.map (memberText form fun b => renderIn form.deeper (toJson b)) := by
    rw [List.map_map]; rfl
  rw [renderIn_object, htexts, hnest]
  exact takesText_readObjectOf item form _ (fun b => (toJson b).nesting) value
    (fun depth e _ => h form.deeper depth e.2) depth

/-! ## Records -/

theorem ok_of_toOption {ε α : Type} {r : Except ε α} {a : α} (h : r.toOption = some a) : r = .ok a := by
  cases r with
  | error e => cases h
  | ok b => cases h; rfl

namespace Record

theorem toJson_eq (record : Record) : record.toJson = .object (record.map fun e => (e.1, e.2.toJson)) := by
  rw [toJson, Value.toJson, Value.fieldsToJson_eq]

theorem takesText_reader (form : Json.Form) (depth : Nat) (record : Record) :
    TakesText (reader depth) (Json.renderIn form record.toJson)
      (within depth record.toJson.nesting (Value.rereadFields record)) := by
  have hfields := Json.takesText_objectOf Value.toJson
    (fun form depth v => Json.takesText_renderIn form depth v.toJson) form depth record
  have hrecord := hfields.map ofMembers
  rw [← toJson_eq, Json.map_within] at hrecord
  rw [Value.rereadFields_eq]; exact hrecord

theorem rereadFields_eq_some_self (record : Record) :
    Value.rereadFields record = some record ↔ ∀ v ∈ Value.parts (.object record), v.Lasting := by
  rw [← Value.reread_eq_some_self, Value.reread_object]
  cases Value.rereadFields record <;> simp

theorem exists_parse {record : Record} (hnesting : record.toJson.nesting ≤ Json.maxNesting)
    (hlasting : ∀ v ∈ Value.parts (.object record), v.Lasting) : ∃ text, parse text = .ok record := by
  refine ⟨record.toJson.compact, ?_⟩
  have hread := Json.readAll_of_takesText (takesText_reader .compact Json.maxNesting record)
  rw [(rereadFields_eq_some_self record).mpr hlasting, within, if_pos hnesting] at hread
  exact ok_of_toOption hread

end Record

theorem Keyed.map_ofList_eq_some {α : Type} {es : Option (Entries α)} {m : Keyed α} :
    es.map Keyed.ofList = some m ↔ es.map Entries.ofList = some m.entries := by
  cases es with
  | none => simp
  | some es =>
    simp only [Option.map_some, Option.some.injEq]
    exact ⟨congrArg Keyed.entries, fun h => Keyed.ext_entries h⟩

/-! ## Collections -/

namespace Tree

def collectionToJson (records : Keyed Record) : Json :=
  .object (records.entries.map fun e => (e.1, e.2.toJson))

def rereadCollection (records : Keyed Record) : Option (Keyed Record) :=
  (records.entries.mapM (memberValue Value.rereadFields)).map Keyed.ofList

theorem takesText_collection (form : Json.Form) (depth : Nat) (records : Keyed Record) :
    TakesText (Json.readObjectOf Record.reader depth) (Json.renderIn form (collectionToJson records))
      (within depth (collectionToJson records).nesting (records.entries.mapM (memberValue Value.rereadFields))) :=
  Json.takesText_objectOf Record.toJson Record.takesText_reader form depth records.entries

theorem rereadCollection_eq_some_self (records : Keyed Record) :
    rereadCollection records = some records ↔
      ∀ entry ∈ records.entries, ∀ v ∈ Value.parts (.object entry.2), v.Lasting := by
  rw [rereadCollection, Keyed.map_ofList_eq_some, mapM_ofList_eq_some_self]
  simp only [records.increasing, true_and, Record.rereadFields_eq_some_self]

/-! ## Trees -/

theorem toJson_eq (t : Tree) :
    t.toJson = .object (t.collections.entries.map fun e => (e.1, collectionToJson e.2)) :=
  rfl

def reread (t : Tree) : Option Tree :=
  (t.collections.entries.mapM (memberValue rereadCollection)).map fun es => ⟨Keyed.ofList es⟩

theorem takesText_reader (form : Json.Form) (depth : Nat) (t : Tree) :
    TakesText (reader depth) (Json.renderIn form t.toJson) (within depth t.toJson.nesting t.reread) := by
  have hcollections := Json.takesText_objectOf collectionToJson takesText_collection form depth t.collections.entries
  have htree := hcollections.map ofMembers
  have hreread : t.reread = (t.collections.entries.mapM
      (memberValue fun records => records.entries.mapM (memberValue Value.rereadFields))).map ofMembers := by
    have hmap := mapM_memberValue_map
      (fun records : Keyed Record => records.entries.mapM (memberValue Value.rereadFields))
      Keyed.ofList t.collections.entries
    unfold reread rereadCollection
    rw [hmap, Option.map_map]; rfl
  rw [Json.map_within, ← hreread] at htree
  exact htree

theorem parse_encode (indent : Nat) (t : Tree) :
    (parse (t.encode indent)).toOption = within Json.maxNesting t.toJson.nesting t.reread :=
  Json.readAll_of_takesText (takesText_reader (.indented indent 0) Json.maxNesting t)

def values (t : Tree) : List Value :=
  t.collections.entries.flatMap fun collection =>
    collection.2.entries.flatMap fun entry => Value.parts (.object entry.2)

theorem forall_values_iff {p : Value → Prop} {t : Tree} :
    (∀ v ∈ t.values, p v) ↔ t.Each fun record => ∀ v ∈ Value.parts (.object record), p v := by
  rw [each_iff_entries]
  simp only [values, List.mem_flatMap]
  constructor
  · intro h collection hc entry he v hv
    exact h v ⟨collection, hc, entry, he, hv⟩
  · rintro h v ⟨collection, hc, entry, he, hv⟩
    exact h collection hc entry he v hv

theorem nesting_le_iff {t : Tree} {depth : Nat} :
    t.toJson.nesting ≤ depth + 2 ↔ t.Each fun record => record.toJson.nesting ≤ depth := by
  rw [each_iff_entries, toJson_eq, Json.nesting, Json.membersNesting_eq, Json.deepest_map]
  simp only [collectionToJson, Json.nesting, Json.membersNesting_eq, Json.deepest_map, Nat.add_le_add_iff_right,
    Json.deepest_le_iff]

theorem reread_eq_some_self (t : Tree) : t.reread = some t ↔ ∀ v ∈ t.values, v.Lasting := by
  have hkeyed : t.reread = some t ↔
      (t.collections.entries.mapM (memberValue rereadCollection)).map Keyed.ofList = some t.collections := by
    obtain ⟨collections⟩ := t
    unfold reread
    cases collections.entries.mapM (memberValue rereadCollection) <;> simp
  rw [hkeyed, Keyed.map_ofList_eq_some, mapM_ofList_eq_some_self, forall_values_iff, each_iff_entries]
  simp only [t.collections.increasing, true_and, rereadCollection_eq_some_self]

theorem reread_empty : (∅ : Tree).reread = some ∅ :=
  rfl

theorem ofText_encode_eq_iff (indent : Nat) (t : Tree) :
    ofText (t.encode indent) = t ↔ (parse (t.encode indent)).toOption = some t := by
  unfold ofText
  cases h : (parse (t.encode indent)).toOption with
  | some s => exact ⟨congrArg some, Option.some.inj⟩
  | none =>
    -- an unreadable text counts as the empty tree, whose own text is readable
    have hne : ∅ ≠ t := by
      rintro rfl
      rw [parse_encode, reread_empty] at h
      cases h
    exact ⟨fun he => absurd he hne, nofun⟩

/-- A tree comes back from its text if it is not nested too deep and all that it holds is lasting. -/
theorem ofText_encode_eq_self (indent : Nat) (t : Tree) :
    ofText (t.encode indent) = t ↔ t.toJson.nesting ≤ Json.maxNesting ∧ ∀ v ∈ t.values, v.Lasting := by
  rw [ofText_encode_eq_iff, parse_encode, Json.within_eq_some, reread_eq_some_self]

/-- A tree with its objects in order, without timestamps and with doubles that their printed forms keep comes back
exactly if its containers, the tree and its collections among them, are nested at most 127 deep. -/
theorem round_trip_up_to_nesting (indent : Nat) (t : Tree)
    (ordered : ∀ fields, Value.object fields ∈ t.values → Entries.Increasing fields)
    (timeless : ∀ time, Value.time time ∉ t.values)
    (printed : ∀ x, Value.float x ∈ t.values → Value.KeepsText x) :
    ofText (t.encode indent) = t ↔ t.toJson.nesting ≤ 127 := by
  rw [ofText_encode_eq_self]
  refine ⟨And.left, fun hnesting => ⟨hnesting, fun v hv => ?_⟩⟩
  cases v with
  | float x => exact printed x hv
  | time t => exact timeless t hv
  | object fields => exact ordered fields hv
  | _ => trivial

def oddities : Tree where
  collections := ⟨[("", ⟨[], by decide⟩), ("\"\\\n", ⟨[("", [("\u0001", .str "\u0000\té𐍈 2020-01-01"),
    ("empty", .array []), ("float", .float 1.0), ("least", .int Int64.minValue), ("nested", .object [("null", .null),
    ("some", .array [.bool true, .object []])])]), ("record", [])], by decide⟩)], by decide⟩

theorem round_trip_up_to_nesting_oddities :
    (∀ fields, Value.object fields ∈ oddities.values → Entries.Increasing fields) ∧
      (∀ time, Value.time time ∉ oddities.values) ∧ (∀ x, Value.float x ∈ oddities.values → Value.KeepsText x) ∧
      ofText (oddities.encode 2) = oddities := by
  have lasting : ∀ v ∈ oddities.values, v.Lasting := by decide +kernel
  have ordered := fun fields (h : Value.object fields ∈ oddities.values) => lasting _ h
  have timeless := fun time (h : Value.time time ∈ oddities.values) => lasting _ h
  have printed := fun x (h : Value.float x ∈ oddities.values) => lasting _ h
  refine ⟨ordered, timeless, printed, ?_⟩
  exact (round_trip_up_to_nesting 2 oddities ordered timeless printed).mpr (by decide +kernel)

end Tree

end DocStore
