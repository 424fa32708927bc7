import DocStore.Proofs.Entries
import DocStore.Tree.Change

/-!
# What changes keep

Changes are made of `put` and `remove`. Both keep what is true of every record (`Each`) and that no collection is
empty (`Filled`), and a change that is refused or not to be kept leaves a filled tree as it was.
-/

namespace DocStore

namespace Keyed

variable {α : Type} {m : Keyed α}

theorem get?_eq_some_iff {key : String} {v : α} : m.get? key = some v ↔ (key, v) ∈ m.entries :=
  ⟨Entries.mem_of_get?, m.increasing.get?_of_mem⟩

theorem mem_keys {key : String} : key ∈ m.keys ↔ ∃ v, m.get? key = some v := by
  unfold keys Entries.keys
  rw [List.mem_map]
  constructor
  · rintro ⟨⟨_, v⟩, hmem, rfl⟩
    exact ⟨v, get?_eq_some_iff.mpr hmem⟩
  · rintro ⟨v, hget⟩
    exact ⟨(key, v), get?_eq_some_iff.mp hget, rfl⟩

theorem isEmpty_insert (m : Keyed α) (key : String) (v : α) : (m.insert key v).isEmpty = false :=
  List.isEmpty_eq_false_iff.mpr (Entries.insert_ne_nil key v m.entries)

theorem erase_of_get?_eq_none {key : String} (h : m.get? key = none) : m.erase key = m := by
  refine ext_get? fun other => ?_
  rw [get?_erase]
  split
  · rename_i ho; rw [ho, h]
  · rfl

theorem insert_of_get? {key : String} {v : α} (h : m.get? key = some v) : m.insert key v = m := by
  refine ext_get? fun other => ?_
  rw [get?_insert]
  split
  · rename_i ho; rw [ho, h]
  · rfl

end Keyed

namespace Tree

/-! ## What is true of every record -/

def Each (p : Record → Prop) (t : Tree) : Prop :=
  ∀ collection id record, t.get? collection id = some record → p record

theorem each_iff_entries {p : Record → Prop} {t : Tree} :
    t.Each p ↔ ∀ collection ∈ t.collections.entries, ∀ entry ∈ collection.2.entries, p entry.2 := by
  constructor
  · rintro h ⟨name, records⟩ hc ⟨id, record⟩ he
    refine h name id record ?_
    rw [get?, collection, Keyed.get?_eq_some_iff.mpr hc]
    exact Keyed.get?_eq_some_iff.mpr he
  · intro h name id record hr
    rw [get?, collection] at hr
    cases hc : t.collections.get? name with
    | none => rw [hc] at hr; cases hr
    | some records =>
      rw [hc] at hr
      exact h _ (Keyed.get?_eq_some_iff.mp hc) _ (Keyed.get?_eq_some_iff.mp hr)

section
variable {p : Record → Prop} {t : Tree}

theorem each_empty : (∅ : Tree).Each p := by
  intro name id record h; rw [get?_empty] at h; cases h

theorem Each.put (h : t.Each p) {record : Record} (hr : p record) (name id : String) :
    (t.put name id record).Each p := by
  intro name' id' record' h'
  rw [get?_put] at h'
  split at h'
  · cases h'; exact hr
  · exact h name' id' record' h'

theorem Each.remove (h : t.Each p) (name id : String) : (t.remove name id).Each p := by
  intro name' id' record h'
  rw [get?_remove] at h'
  split at h'
  · cases h'
  · exact h name' id' record h'

end

/-! ## No empty collections -/

def Filled (t : Tree) : Prop :=
  ∀ name records, t.collections.get? name = some records → records.isEmpty = false

theorem filled_empty : (∅ : Tree).Filled := by
  intro name records h; cases h

theorem Filled.put {t : Tree} (h : t.Filled) (name id : String) (record : Record) :
    (t.put name id record).Filled := by
  intro other records ho
  rw [Tree.put, Keyed.get?_insert] at ho
  split at ho
  · cases ho; exact Keyed.isEmpty_insert _ _ _
  · exact h other records ho

theorem Filled.remove {t : Tree} (h : t.Filled) (name id : String) : (t.remove name id).Filled := by
  unfold Tree.remove
  split
  · exact h
  · rename_i records hrecords
    dsimp only
    split
    -- the collection goes with its last record
    · intro other others ho
      rw [Keyed.get?_erase] at ho
      split at ho
      · cases ho
      · exact h other others ho
    · rename_i hrest
      intro other others ho
      rw [Keyed.get?_insert] at ho
      split at ho
      · cases ho; exact Bool.eq_false_iff.mpr hrest
      · exact h other others ho

theorem remove_of_get?_eq_none {t : Tree} {name id : String} (hid : t.get? name id = none)
    (hheld : t.collections.get? name ≠ some ∅) : t.remove name id = t := by
  unfold Tree.remove
  split
  · rfl
  · rename_i records hrecords
    have hrecord : records.get? id = none := by rwa [get?, collection, hrecords] at hid
    rw [Keyed.erase_of_get?_eq_none hrecord]
    dsimp only
    have hrest : ¬ records.isEmpty = true := fun h => hheld (by rw [hrecords, Keyed.eq_empty_of_isEmpty h])
    rw [if_neg hrest, Keyed.insert_of_get? hrecords]

theorem Filled.remove_of_get?_eq_none {t : Tree} (h : t.Filled) {name id : String} (hid : t.get? name id = none) :
    t.remove name id = t :=
  Tree.remove_of_get?_eq_none hid fun hhollow => by cases h name ∅ hhollow

/-! ## What all changes keep -/

/-- A property of trees that is kept when records that satisfy `q` are put in or any are taken out. -/
structure Kept (p : Tree → Prop) (q : Record → Prop) : Prop where
  put : ∀ {t : Tree} {record : Record}, p t → q record → ∀ name id, p (t.put name id record)
  remove : ∀ {t : Tree}, p t → ∀ name id, p (t.remove name id)
  merge : ∀ {t : Tree} {name id : String} {record fields : Record},
    p t → t.get? name id = some record → q fields → q (Entries.merge record fields)

theorem kept_filled : Kept Filled fun _ => True where
  put h _ name id := h.put name id _
  remove h := h.remove
  merge _ _ _ := trivial

theorem kept_each {p : Record → Prop}
    (h : ∀ {record fields : Record}, p record → p fields → p (Entries.merge record fields)) :
    Kept (Each p) p where
  put ht hr := ht.put hr
  remove ht := ht.remove
  merge ht hr hf := h (ht _ _ _ hr) hf

namespace Kept

variable {p : Tree → Prop} {q : Record → Prop} {t : Tree} (hk : Kept p q)
include hk

theorem putAll {entries : List (String × Record)} (ht : p t) (he : ∀ e ∈ entries, q e.2) (name : String) :
    p (t.putAll name entries) := by
  induction entries generalizing t with
  | nil => exact ht
  | cons e entries ih =>
    obtain ⟨hq, hrest⟩ := List.forall_mem_cons.mp he
    exact ih (hk.put ht hq name e.1) hrest

theorem insertEach {entries : List (String × Record)} (ht : p t) (he : ∀ e ∈ entries, q e.2) (name : String) :
    p (t.insertEach name entries).1 := by
  induction entries generalizing t with
  | nil => exact ht
  | cons e entries ih =>
    obtain ⟨id, record⟩ := e
    obtain ⟨hq, hrest⟩ := List.forall_mem_cons.mp he
    rw [Tree.insertEach]
    split
    · exact ih ht hrest
    · exact ih (hk.put ht hq name id) hrest

end Kept

end Tree

end DocStore
