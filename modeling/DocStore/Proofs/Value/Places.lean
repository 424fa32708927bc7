import DocStore.Proofs.Value.Decoding

/-!
# Places inside values

A place is a way down through fields and items. What the source of a text holds at a place, of several members of one
name the last one, is what its value holds there (`value?_at`), and the text of a value holds at a place what the value
holds there (`at?_source`).
-/

namespace DocStore

open Json (Source memberValue)

inductive Value.Step where
  | field (name : String)
  | item (index : Nat)

/-! ## Going down -/

namespace Value

def child? : Step → Value → Option Value
  | .field name, .object fields => Entries.get? name fields
  | .item index, .array items => items[index]?
  | _, _ => none

def at? : List Step → Value → Option Value
  | [], v => some v
  | step :: place, v => (v.child? step).bind (at? place)

theorem at?_append (v : Value) (place further : List Step) :
    v.at? (place ++ further) = (v.at? place).bind (at? further) := by
  induction place generalizing v with
  | nil => rfl
  | cons step place ih =>
    rw [List.cons_append, at?, at?, Option.bind_assoc]
    cases v.child? step with
    | none => rfl
    | some inner => exact ih inner

end Value

namespace Json.Source

open Value (Step)

def child? : Step → Source → Option Source
  | .field name, .object members => Entries.last? name members
  | .item index, .array items => items[index]?
  | _, _ => none

/-- What stands at a place; of several members of one name the last one counts. -/
def at? : List Step → Source → Option Source
  | [], src => some src
  | step :: place, src => (src.child? step).bind (at? place)

def number? : Source → Option Literal
  | number lit => some lit
  | _ => none

end Json.Source

/-! ## Sources and their values -/

theorem getElem?_mapM {α β : Type} {f : α → Option β} {as : List α} {bs : List β} (h : as.mapM f = some bs)
    (i : Nat) : as[i]?.map f = bs[i]?.map some := by
  rw [← List.getElem?_map, mapM_eq_some_iff.mp h, List.getElem?_map]

theorem Entries.last?_mapM {α β : Type} {f : α → Option β} {es : Entries α} {fs : Entries β}
    (h : es.mapM (memberValue f) = some fs) (key : String) : (last? key es).map f = (last? key fs).map some := by
  rw [← last?_map, map_of_mapM_memberValue h, last?_map]

namespace Json.Source

open Value (Step)

variable {src inner : Source} {v : Value}

theorem value?_child {step : Step} (hv : src.value? = some v) (hinner : src.child? step = some inner) :
    ∃ w, inner.value? = some w ∧ v.child? step = some w := by
  -- all members have a value, so the one that counts has it too
  have hfound : ∀ {w : Option Value}, some inner.value? = w.map some → ∃ w', inner.value? = some w' ∧ w = some w' := by
    intro w hw
    obtain ⟨w', rfl, hw'⟩ := Option.map_eq_some_iff.mp hw.symm
    exact ⟨w', hw'.symm, rfl⟩
  unfold child? at hinner
  split at hinner
  · rename_i name members
    rw [value?_object] at hv
    obtain ⟨es, hes, rfl⟩ := Option.map_eq_some_iff.mp hv
    have hlast := Entries.last?_mapM hes name
    rw [hinner] at hlast
    rw [Value.child?, Entries.get?_ofList]
    exact hfound hlast
  · rename_i index items
    rw [value?_array] at hv
    obtain ⟨vs, hvs, rfl⟩ := Option.map_eq_some_iff.mp hv
    have hitem := getElem?_mapM hvs index
    rw [hinner] at hitem
    exact hfound hitem
  · cases hinner

/-- What a source holds at a place has a value, and it is what the value of the source holds there. -/
theorem value?_at {place : List Step} (hv : src.value? = some v) (hinner : src.at? place = some inner) :
    ∃ w, inner.value? = some w ∧ v.at? place = some w := by
  induction place generalizing src v with
  | nil => cases hinner; exact ⟨v, hv, rfl⟩
  | cons step place ih =>
    obtain ⟨next, hnext, hinner⟩ := Option.bind_eq_some_iff.mp hinner
    obtain ⟨w, hw, hchild⟩ := value?_child hv hnext
    rw [Value.at?, hchild]
    exact ih hw hinner

end Json.Source

namespace Json

def NumberAt (text : String) (place : List Value.Step) (lit : Literal) : Prop :=
  ∃ src, Says text src ∧ src.at? place = some (.number lit)

theorem numberAt_of_read (depth : Nat) {text : String} {place : List Value.Step} {lit : Literal}
    (h : ((readAll (readSource depth) text).toOption.bind fun src => (src.at? place).bind Source.number?) = some lit) :
    NumberAt text place lit := by
  obtain ⟨src, hsrc, h⟩ := Option.bind_eq_some_iff.mp h
  obtain ⟨inner, hinner, h⟩ := Option.bind_eq_some_iff.mp h
  refine ⟨src, ⟨depth, hsrc⟩, ?_⟩
  cases inner with
  | number lit' => cases h; exact hinner
  | _ => cases h

theorem NumberAt.unique {text : String} {place : List Value.Step} {lit lit' : Literal} (h : NumberAt text place lit)
    (h' : NumberAt text place lit') : lit = lit' := by
  obtain ⟨src, hsays, hlit⟩ := h
  obtain ⟨src', hsays', hlit'⟩ := h'
  cases hsays.unique hsays'
  rw [hlit] at hlit'
  cases hlit'; rfl

end Json

/-! ## Values and their sources -/

theorem Json.child?_leaf {j : Json} (hj : j.isScalar = true) (step : Value.Step) : j.leaf.child? step = none := by
  cases j with
  | float x =>
    cases hx : x.isFinite with
    | true =>
      obtain ⟨lit, hleaf, -⟩ := leaf_float hx
      rw [hleaf]; cases step <;> rfl
    | false => rw [leaf_float_eq_null hx]; cases step <;> rfl
  | array items => cases hj
  | object members => cases hj
  | _ => cases step <;> rfl

namespace Value

/-- The value itself, apart from what it holds, is in order. An object of fields by name always is. -/
def InOrder : Value → Prop
  | object fields => Entries.Increasing fields
  | _ => True

def Ordered (v : Value) : Prop :=
  ∀ u ∈ v.parts, u.InOrder

theorem mem_parts_self (v : Value) : v ∈ v.parts := by
  cases v <;> simp [parts]

theorem Ordered.inOrder {v : Value} (h : v.Ordered) : v.InOrder :=
  h v v.mem_parts_self

theorem Ordered.child {v w : Value} (h : v.Ordered) {step : Step} (hw : v.child? step = some w) : w.Ordered := by
  intro u hu
  refine h u ?_
  unfold child? at hw
  split at hw
  · rw [parts]
    exact List.mem_cons_of_mem _ (mem_fieldsParts.mpr ⟨_, Entries.mem_of_get? hw, hu⟩)
  · rw [parts]
    exact List.mem_cons_of_mem _ (mem_itemsParts.mpr ⟨_, List.mem_of_getElem? hw, hu⟩)
  · cases hw

theorem child?_source {v : Value} (hv : v.InOrder) (step : Step) :
    v.toJson.source.child? step = (v.child? step).map fun w => w.toJson.source := by
  have scalar : ∀ u : Value, u.toJson.isScalar = true → u.toJson.source.child? step = none := by
    intro u hu
    rw [Json.source_of_isScalar hu]; exact Json.child?_leaf hu step
  cases v with
  | object fields =>
    rw [source_object]
    cases step with
    | field name =>
      have hinc : Entries.Increasing fields := hv
      rw [Source.child?, Entries.last?_map (fun w : Value => w.toJson.source), hinc.last?_eq]; rfl
    | item index => rfl
  | array items =>
    rw [source_array]
    cases step with
    | field name => rfl
    | item index => exact List.getElem?_map ..
  | int n =>
    rw [scalar (.int n) (by unfold toJson ofInt64; split <;> rfl)]
    cases step <;> rfl
  | float x =>
    rw [scalar (.float x) (by unfold toJson; split <;> rfl)]
    cases step <;> rfl
  | null | bool b | str s | time t =>
    rw [scalar _ rfl]
    cases step <;> rfl

theorem at?_source {v : Value} (hv : v.Ordered) (place : List Step) :
    v.toJson.source.at? place = (v.at? place).map fun w => w.toJson.source := by
  induction place generalizing v with
  | nil => rfl
  | cons step place ih =>
    rw [Source.at?, at?, child?_source hv.inOrder]
    cases hw : v.child? step with
    | none => rfl
    | some w => exact ih (hv.child hw)

theorem ordered_ofJson (j : Json) : (ofJson j).Ordered := by
  intro u hu
  have htidy := tidy_ofJson j u hu
  cases u with
  | object fields => exact htidy
  | _ => trivial

end Value

namespace Record

def Ordered (record : Record) : Prop :=
  (Value.object record).Ordered

theorem Ordered.merge {record fields : Record} (hr : record.Ordered) (hf : fields.Ordered) :
    Ordered (Entries.merge record fields) :=
  parts_merge (fun _ => Iff.rfl) hr hf

end Record

end DocStore
