import DocStore.Proofs.Value.Decoding
import DocStore.Tree.Text

/-!
# Two ways from JSON and two ways back

Trying the kinds of value in their order finds the value that is taken directly, and a value that is handed to the
output of trees makes the tree it has directly (`codecs_agree`). Handed to the output of texts, it makes the text of
that tree (`write_text`), and so does all that is stored (`encode_eq_write`).
-/

namespace DocStore

namespace Value

/-! ## From JSON -/

/-- Whole numbers are tried before doubles, which take what is beyond them. -/
theorem asScalar?_nat (n : UInt64) : asScalar? (.nat n) = some (ofNat n) := by
  have hfirst : asScalar? (.nat n) = (asInt? (.nat n)).or (asFloat? (.nat n)) := by
    simp only [asScalar?, List.findSome?, asNull?, asBool?]
    cases asInt? (.nat n) <;> rfl
  rw [hfirst, asInt?, asFloat?, ofNat]
  split <;> rfl

mutual
/-- Some kind accepts every tree, and the first one that does gives the value of the tree. -/
theorem decode?_eq : (j : Json) → decode? j = some (ofJson j)
  | .array items => by rw [decode?, decodeItems?_eq items]; rfl
  | .object members => by rw [decode?, decodeMembers?_eq members]; rfl
  | .nat n => by
    have hscalar : decode? (.nat n) = (asScalar? (.nat n)).or none := rfl
    rw [hscalar, asScalar?_nat]; rfl
  | .null | .bool _ | .neg _ | .float _ | .str _ => rfl

theorem decodeItems?_eq : (items : List Json) → decodeItems? items = some (ofItems items)
  | [] => rfl
  | j :: items => by rw [decodeItems?, decode?_eq j, decodeItems?_eq items]; rfl

theorem decodeMembers?_eq : (members : List (String × Json)) → decodeMembers? members = some (ofMembers members)
  | [] => rfl
  | (name, j) :: members => by rw [decodeMembers?, decode?_eq j, decodeMembers?_eq members]; rfl
end

/-! ## To JSON -/

mutual
theorem write_tree : (v : Value) → v.write .tree = v.toJson
  | .array items => by rw [write, toJson, writeItems_tree items]; rfl
  | .object fields => by rw [write, toJson, writeFields_tree fields]; rfl
  | .null | .bool _ | .int _ | .float _ | .str _ | .time _ => rfl

theorem writeItems_tree : (items : List Value) → writeItems .tree items = itemsToJson items
  | [] => rfl
  | v :: items => by rw [writeItems, itemsToJson, write_tree v, writeItems_tree items]

theorem writeFields_tree : (fields : List (String × Value)) → writeFields .tree fields = fieldsToJson fields
  | [] => rfl
  | (name, v) :: fields => by rw [writeFields, fieldsToJson, write_tree v, writeFields_tree fields]
end

open Json (renderScalar renderIn renderItems renderMembers Form)

theorem renderIn_ofInt64 (form : Form) (n : Int64) : renderIn form (ofInt64 n) = Decimal.ofInt n.toInt := by
  unfold ofInt64
  split
  · rfl
  · rename_i hn
    have hnat := toNat_toUInt64 (Int64.not_lt.mp hn)
    have habs : n.toUInt64.toNat = n.toInt.natAbs := by omega
    rw [Json.renderIn_of_isScalar form rfl, renderScalar, habs, Decimal.ofInt, if_neg (by omega)]

theorem renderIn_float (form : Form) (x : Float) :
    renderIn form (toJson (.float x)) = Json.renderFloat x := by
  rw [toJson, Json.renderFloat]
  cases hx : x.isFinite <;> simp [renderIn, renderScalar, Json.renderFloat, hx]

mutual
/-- The text that a value makes of itself is the text of its tree. -/
theorem write_text (form : Form) : (v : Value) → v.write .text form = renderIn form v.toJson
  | .array items => by
    rw [write, toJson, renderIn, ← writeItems_text form.deeper items]; rfl
  | .object fields => by
    rw [write, toJson, renderIn, ← writeFields_text form.deeper fields]; rfl
  | .int n => (renderIn_ofInt64 form n).symm
  | .float x => (renderIn_float form x).symm
  | .bool true | .bool false | .null | .str _ | .time _ => rfl

theorem writeItems_text (form : Form) : (items : List Value) →
    (writeItems .text items).map (· form) = renderItems form (itemsToJson items)
  | [] => rfl
  | v :: items => by
    rw [writeItems, itemsToJson, renderItems, List.map_cons, write_text form v, writeItems_text form items]

theorem writeFields_text (form : Form) : (fields : List (String × Value)) →
    (writeFields .text fields).map (fun e => Json.renderString e.1 ++ form.colon ++ e.2 form) =
      renderMembers form (fieldsToJson fields)
  | [] => rfl
  | (name, v) :: fields => by
    rw [writeFields, fieldsToJson, renderMembers, List.map_cons, writeFields_text form fields, ← write_text form v]
end

/-! ## There and back -/

theorem ofJson_ofInt64 (n : Int64) : ofJson (ofInt64 n) = int n := by
  unfold ofInt64
  split
  · rfl
  · rename_i hn
    exact ofNat_toUInt64 (Int64.not_lt.mp hn)

theorem ofJson_toJson_array (items : List Value) :
    ofJson (toJson (.array items)) = .array (items.map fun v => ofJson v.toJson) := by
  rw [toJson, ofJson, ofItems_eq, itemsToJson_eq, List.map_map]; rfl

theorem ofJson_toJson_object (fields : List (String × Value)) :
    ofJson (toJson (.object fields)) = .object (Entries.ofList (fields.map fun e => (e.1, ofJson e.2.toJson))) := by
  rw [toJson, ofJson, ofMembers_eq, fieldsToJson_eq, List.map_map]; rfl

/-- Only timestamps and doubles without digits become something else. -/
theorem ofJson_toJson_scalar {v : Value} (hv : v.toJson.isScalar = true) :
    ofJson v.toJson = v ↔ v.Tidy ∧ ∀ x, v = .float x → x.isFinite := by
  cases v with
  | null => simp [toJson, ofJson, Tidy]
  | bool b => simp [toJson, ofJson, Tidy]
  | int n => simp [toJson, ofJson_ofInt64, Tidy]
  | float x => cases hx : x.isFinite <;> simp [toJson, ofJson, Tidy, hx]
  | str s => simp [toJson, ofJson, Tidy]
  | time t => simp [toJson, ofJson, Tidy]
  | array items => cases hv
  | object fields => cases hv

theorem rebuilds_ofJson :
    Rebuilds (fun v => some (ofJson v.toJson)) fun v => v.Tidy ∧ ∀ x, v = .float x → x.isFinite where
  array items := by
    have hitems : items.mapM (fun v => some (ofJson v.toJson)) = some (items.map fun v => ofJson v.toJson) :=
      mapM_eq_some_iff.mpr (List.map_map ..).symm
    rw [ofJson_toJson_array, hitems]; rfl
  object fields := by
    have hfields : fields.mapM (Json.memberValue fun v => some (ofJson v.toJson)) =
        some (fields.map fun e => (e.1, ofJson e.2.toJson)) :=
      mapM_eq_some_iff.mpr (List.map_map ..).symm
    rw [ofJson_toJson_object, hfields]; rfl
  scalar v hv := by rw [Option.some_inj]; exact ofJson_toJson_scalar hv
  arrays items := ⟨trivial, nofun⟩
  objects fields := and_iff_left nofun

/-- Both ways to read a tree give the same value, and both ways to write a value give the same tree. The value of the
tree is the value that was written, unless a timestamp, a double without digits or an object out of order stands in it. -/
theorem codecs_agree :
    (∀ j : Json, decode? j = some (ofJson j)) ∧ (∀ v : Value, v.write .tree = v.toJson) ∧
      ∀ v : Value, ofJson v.toJson = v ↔ ∀ u ∈ v.parts, u.Tidy ∧ ∀ x, u = .float x → x.isFinite := by
  refine ⟨decode?_eq, write_tree, fun v => ?_⟩
  rw [← rebuilds_ofJson.eq_some_self_iff v, Option.some_inj]

end Value

/-! ## What is stored -/

namespace Output

open Json (Form renderIn)

/-- An object that is written as text is the text of an object, if its items are. -/
theorem text_object {β : Type} {es : List (String × β)} {item : β → Form → List Char} {tree : β → Json}
    (h : ∀ b form, item b form = renderIn form (tree b)) (form : Form) :
    Output.text.object (es.map fun e => (e.1, item e.2)) form =
      renderIn form (.object (es.map fun e => (e.1, tree e.2))) := by
  rw [renderIn, Json.renderMembers_eq, List.map_map]
  simp only [text, List.map_map, Function.comp_def, h, Json.memberText]

end Output

/-- The text of a tree is what the tree writes, without a JSON tree in between. -/
theorem Tree.encode_eq_write (indent : Nat) (t : Tree) :
    t.encode indent = String.ofList (t.write .text (.indented indent 0)) := by
  have hrecord : ∀ (record : Record) (form : Json.Form),
      (Value.object record).write .text form = Json.renderIn form record.toJson :=
    fun record form => Value.write_text form (.object record)
  have hrecords : ∀ (records : Keyed Record) (form : Json.Form),
      Output.text.object (records.entries.map fun e => (e.1, (Value.object e.2).write .text)) form =
        Json.renderIn form (.object (records.entries.map fun e => (e.1, e.2.toJson))) :=
    fun _ => Output.text_object hrecord
  exact congrArg String.ofList (Output.text_object hrecords (.indented indent 0)).symm

end DocStore
