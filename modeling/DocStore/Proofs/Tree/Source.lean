import DocStore.Proofs.Tree.RoundTrip
import DocStore.Proofs.Value.Places

/-!
# A tree as one value

A tree is an object of collections, each an object of records. A text that is a tree says this object as its value
(`says_of_parse`), and what the object holds at a place below a collection and an id is what the record there holds.
-/

namespace DocStore

open Json (Source Says memberValue readSource)

/-! ## What a source says as a record and as a tree -/

namespace Json.Source

def record? (src : Source) : Option Record :=
  (src.members?.bind (·.mapM (memberValue json?))).map Record.ofMembers

def collection? (src : Source) : Option (List (String × Record)) :=
  src.members?.bind (·.mapM (memberValue record?))

def tree? (src : Source) : Option Tree :=
  (src.members?.bind (·.mapM (memberValue collection?))).map Tree.ofMembers

end Json.Source

theorem Record.follows_reader (depth : Nat) : Json.Follows (reader depth) (readSource depth) Source.record? :=
  (Json.Follows.objectOf Json.follows_readTree depth).map ofMembers

theorem Tree.follows_reader (depth : Nat) : Json.Follows (reader depth) (readSource depth) Source.tree? :=
  (Json.Follows.objectOf (Json.Follows.objectOf Record.follows_reader) depth).map ofMembers

/-! ## Trees as values -/

namespace Tree

def collectionValue (records : Keyed Record) : Value :=
  .object (records.entries.map fun e => (e.1, .object e.2))

def toValue (t : Tree) : Value :=
  .object (t.collections.entries.map fun e => (e.1, collectionValue e.2))

end Tree

namespace Json.Source

theorem mapM_memberValue_of {α β : Type} {f : Source → Option α} {g : Source → Option β} {val : α → β}
    (h : ∀ src a, f src = some a → g src = some (val a)) {members : List (String × Source)} {es : Entries α}
    (hes : members.mapM (memberValue f) = some es) :
    members.mapM (memberValue g) = some (es.map fun e => (e.1, val e.2)) := by
  induction members generalizing es with
  | nil => cases hes; rfl
  | cons m members ih =>
    obtain ⟨name, src⟩ := m
    rw [List.mapM_cons] at hes
    obtain ⟨e, he, hes⟩ := Option.bind_eq_some_iff.mp hes
    obtain ⟨a, ha, rfl⟩ := Option.map_eq_some_iff.mp he
    obtain ⟨es, hrest, hes⟩ := Option.bind_eq_some_iff.mp hes
    cases hes
    rw [List.mapM_cons, ih hrest, memberValue, h src a ha]; rfl

/-- The value of an object whose members are data of a kind. -/
theorem value?_members {α : Type} {f : Source → Option α} {val : α → Value}
    (h : ∀ src a, f src = some a → src.value? = some (val a)) {src : Source} {es : Entries α}
    (hes : src.members?.bind (·.mapM (memberValue f)) = some es) :
    src.value? = some (.object ((Entries.ofList es).map fun e => (e.1, val e.2))) := by
  obtain ⟨members, hmembers, hes⟩ := Option.bind_eq_some_iff.mp hes
  cases src with
  | object members' =>
    cases hmembers
    rw [value?_object, mapM_memberValue_of h hes, ← Entries.ofList_map]; rfl
  | _ => cases hmembers

theorem value?_of_record? {src : Source} {record : Record} (h : src.record? = some record) :
    src.value? = some (.object record) := by
  obtain ⟨js, hjs, rfl⟩ := Option.map_eq_some_iff.mp h
  have hvalue : ∀ (src : Source) (j : Json), src.json? = some j → src.value? = some (Value.ofJson j) := by
    intro src j hj
    rw [value?, hj]; rfl
  rw [value?_members hvalue hjs, ← Entries.ofList_map]; rfl

theorem value?_of_collection? {src : Source} {es : List (String × Record)} (h : src.collection? = some es) :
    src.value? = some (Tree.collectionValue (Keyed.ofList es)) :=
  value?_members (fun _ _ => value?_of_record?) h

theorem value?_of_tree? {src : Source} {t : Tree} (h : src.tree? = some t) : src.value? = some t.toValue := by
  obtain ⟨es, hes, rfl⟩ := Option.map_eq_some_iff.mp h
  have hvalue : src.value? =
      some (.object ((Entries.ofList es).map fun e => (e.1, Tree.collectionValue (Keyed.ofList e.2)))) :=
    value?_members (fun _ _ => value?_of_collection?) hes
  have htree : (Tree.ofMembers es).toValue =
      .object ((Entries.ofList es).map fun e => (e.1, Tree.collectionValue (Keyed.ofList e.2))) := by
    have hlist := Entries.ofList_map (fun records : List (String × Record) => Keyed.ofList records) es
    unfold Tree.ofMembers Tree.toValue Keyed.ofList at *
    dsimp only
    rw [hlist, List.map_map]; rfl
  rw [hvalue, htree]

end Json.Source

namespace Tree

theorem says_of_parse {text : String} {t : Tree} (h : parse text = .ok t) :
    ∃ src, Says text src ∧ src.value? = some t.toValue := by
  have hparse : (parse text).toOption = some t := by rw [h]; rfl
  rw [parse, (follows_reader Json.maxNesting).readAll] at hparse
  obtain ⟨src, hsrc, htree⟩ := Option.bind_eq_some_iff.mp hparse
  exact ⟨src, ⟨Json.maxNesting, hsrc⟩, Source.value?_of_tree? htree⟩

/-! ## Records as parts of the value -/

section
variable (t : Tree) (collection id : String)

theorem child?_toValue :
    t.toValue.child? (.field collection) = (t.collections.get? collection).map collectionValue :=
  Entries.get?_map collectionValue t.collections.entries collection

theorem child?_collectionValue (records : Keyed Record) :
    (collectionValue records).child? (.field id) = (records.get? id).map .object :=
  Entries.get?_map Value.object records.entries id

theorem at?_toValue (place : List Value.Step) :
    t.toValue.at? (.field collection :: .field id :: place) =
      (t.get? collection id).bind fun record => (Value.object record).at? place := by
  rw [Value.at?, child?_toValue, get?, Tree.collection]
  cases t.collections.get? collection with
  | none => rfl
  | some records =>
    simp only [Option.map_some, Option.bind_some, Option.getD_some]
    rw [Value.at?, child?_collectionValue]
    cases records.get? id <;> rfl

theorem toJson_collectionValue (records : Keyed Record) :
    (collectionValue records).toJson = collectionToJson records := by
  rw [collectionValue, Value.toJson, Value.fieldsToJson_eq, List.map_map]; rfl

theorem toJson_toValue : t.toValue.toJson = t.toJson := by
  rw [toValue, Value.toJson, Value.fieldsToJson_eq, List.map_map, toJson_eq]
  simp [Function.comp_def, toJson_collectionValue]

end

variable {t : Tree}

theorem ordered_of_parse {text : String} (h : parse text = .ok t) : t.Each Record.Ordered := by
  obtain ⟨src, -, hvalue⟩ := says_of_parse h
  obtain ⟨j, -, hj⟩ := Option.map_eq_some_iff.mp hvalue
  have hordered := Value.ordered_ofJson j
  rw [hj] at hordered
  intro collection id record hrecord
  rw [get?, Tree.collection] at hrecord
  cases hrecords : t.collections.get? collection with
  | none => rw [hrecords] at hrecord; cases hrecord
  | some records =>
    rw [hrecords] at hrecord
    have hcollection : (collectionValue records).Ordered :=
      hordered.child (by rw [child?_toValue, hrecords]; rfl)
    exact hcollection.child (by rw [child?_collectionValue]; exact congrArg (Option.map _) hrecord)

/-- The text of a tree holds at a place in a record what the record holds there. -/
theorem at?_source {collection id : String}
    (hordered : ∀ record, t.get? collection id = some record → record.Ordered) (place : List Value.Step) :
    t.toJson.source.at? (.field collection :: .field id :: place) =
      ((t.get? collection id).bind fun record => (Value.object record).at? place).map fun v => v.toJson.source := by
  have htree : t.toValue.InOrder := t.collections.increasing.map collectionValue
  rw [get?, Tree.collection] at hordered ⊢
  rw [← toJson_toValue, Source.at?, Value.child?_source htree, child?_toValue]
  cases hrecords : t.collections.get? collection with
  | none => rfl
  | some records =>
    have hinner : (collectionValue records).InOrder := records.increasing.map Value.object
    rw [hrecords] at hordered
    simp only [Option.map_some, Option.bind_some, Option.getD_some] at hordered ⊢
    rw [Source.at?, Value.child?_source hinner, child?_collectionValue]
    cases hrecord : records.get? id with
    | none => rfl
    | some record => exact Value.at?_source (hordered record hrecord) place

theorem says_encode (indent : Nat) (t : Tree) : Says (t.encode indent) t.toJson.source := by
  have htext := Json.takesText_source (.indented indent 0) t.toJson.nesting t.toJson
  refine ⟨t.toJson.nesting, (Json.readAll_of_takesText htext).trans ?_⟩
  rw [Json.within, if_pos (Nat.le_refl _)]

end Tree

end DocStore
