import DocStore.Proofs.Tree.Changes

/-!
# What a tree holds

Look-ups after batches of records, and the enumerations of a tree said by look-up: the records of a collection
(`mem_records_iff`) and the names of the collections (`mem_names`).
-/

namespace DocStore

namespace Tree

variable (t : Tree) (name : String)

/-! ## Batches -/

theorem get?_putAll {entries : List (String × Record)} (h : (entries.map (·.1)).Nodup) (name' id : String) :
    (t.putAll name entries).get? name' id =
      if name' = name then (Entries.get? id entries).or (t.get? name id) else t.get? name' id := by
  induction entries generalizing t with
  | nil => by_cases hn : name' = name <;> simp [putAll, hn]
  | cons e entries ih =>
    obtain ⟨k, record⟩ := e
    obtain ⟨hk, hrest⟩ := List.nodup_cons.mp h
    have hput : t.putAll name ((k, record) :: entries) = (t.put name k record).putAll name entries := rfl
    rw [hput, ih _ hrest, get?_put, get?_put, Entries.get?_cons]
    by_cases hn : name' = name
    · by_cases hid : k = id
      · subst hid
        have hnone : Entries.get? k entries = none := by
          cases hr : Entries.get? k entries with
          | none => rfl
          | some record' => exact absurd (List.mem_map_of_mem (Entries.mem_of_get? hr)) hk
        simp [hn, hnone]
      · simp [hn, hid, Ne.symm hid]
    · simp [hn]

theorem get?_insertEach (entries : List (String × Record)) (name' id : String) :
    (t.insertEach name entries).1.get? name' id =
      if name' = name then (t.get? name id).or (Entries.get? id entries) else t.get? name' id := by
  induction entries generalizing t with
  | nil => by_cases hn : name' = name <;> simp [insertEach, hn]
  | cons e entries ih =>
    obtain ⟨k, record⟩ := e
    rw [insertEach, Entries.get?_cons]
    by_cases hk : (t.get? name k).isSome
    · obtain ⟨old, hold⟩ := Option.isSome_iff_exists.mp hk
      rw [if_pos hk]
      dsimp only
      rw [ih]
      by_cases hid : k = id
      · subst hid; simp [hold]
      · simp [hid]
    · have hnone : t.get? name k = none := by simpa using hk
      rw [if_neg hk]
      dsimp only
      rw [ih, get?_put, get?_put]
      by_cases hid : k = id
      · subst hid; by_cases hn : name' = name <;> simp [hn, hnone]
      · simp [hid, Ne.symm hid]

theorem length_insertEach (entries : List (String × Record)) :
    (t.insertEach name entries).2.length = entries.length := by
  induction entries generalizing t with
  | nil => rfl
  | cons e entries ih =>
    obtain ⟨k, record⟩ := e
    rw [insertEach]
    split
    · exact congrArg (· + 1) (ih t)
    · exact congrArg (· + 1) (ih _)

/-- An entry is passed over if its id was there or came before it. -/
theorem insertEach_eq_false_iff {entries : List (String × Record)} {i : Nat} {id : String}
    (h : (entries.map (·.1))[i]? = some id) :
    (t.insertEach name entries).2[i]? = some false ↔
      t.get? name id ≠ none ∨ id ∈ (entries.map (·.1)).take i := by
  induction entries generalizing t i with
  | nil => cases h
  | cons e entries ih =>
    obtain ⟨k, record⟩ := e
    rw [insertEach]
    cases i with
    | zero =>
      cases h
      by_cases hk : (t.get? name k).isSome
      · rw [if_pos hk]; simpa [Option.isSome_iff_ne_none] using hk
      · rw [if_neg hk]; simpa using hk
    | succ i =>
      have hrest : (entries.map (·.1))[i]? = some id := h
      simp only [List.map_cons, List.take_succ_cons, List.mem_cons]
      by_cases hk : (t.get? name k).isSome
      · rw [if_pos hk]
        dsimp only
        rw [List.getElem?_cons_succ, ih t hrest]
        constructor
        · exact Or.imp_right .inr
        · rintro (hid | rfl | hid)
          · exact .inl hid
          · exact .inl (Option.isSome_iff_ne_none.mp hk)
          · exact .inr hid
      · rw [if_neg hk]
        dsimp only
        rw [List.getElem?_cons_succ, ih _ hrest, get?_put]
        by_cases hid : id = k
        · simp [hid]
        · simp [hid]

/-- Entries of which none is put in leave the tree as it is. -/
theorem insertEach_eq_self {entries : List (String × Record)} (h : true ∉ (t.insertEach name entries).2) :
    (t.insertEach name entries).1 = t := by
  induction entries with
  | nil => rfl
  | cons e entries ih =>
    obtain ⟨k, record⟩ := e
    rw [insertEach] at h ⊢
    split at h
    · rename_i htaken
      rw [if_pos htaken]
      exact ih fun hmem => h (List.mem_cons_of_mem _ hmem)
    · exact absurd (List.mem_cons_self ..) h

section
variable {ids : List String} {records : List Record} (length_eq : ids.length = records.length)
include length_eq

theorem length_insertEach_zip : (t.insertEach name (ids.zip records)).2.length = ids.length := by
  rw [length_insertEach, List.length_zip, ← length_eq, Nat.min_self]

theorem insertEach_zip_eq_false_iff {i : Nat} {id : String} (hid : ids[i]? = some id) :
    (t.insertEach name (ids.zip records)).2[i]? = some false ↔ t.get? name id ≠ none ∨ id ∈ ids.take i := by
  have hids : (ids.zip records).map (·.1) = ids := List.map_fst_zip (Nat.le_of_eq length_eq)
  rw [← hids] at hid
  have hskipped := insertEach_eq_false_iff t name hid
  rwa [hids] at hskipped

/-- The first entry under an id that was free is put in. -/
theorem get?_insertEach_zip {i : Nat} {id : String} (hid : ids[i]? = some id)
    (h : (t.insertEach name (ids.zip records)).2[i]? = some true) :
    (t.insertEach name (ids.zip records)).1.get? name id = records[i]? := by
  have hskipped := insertEach_zip_eq_false_iff t name length_eq hid
  rw [h] at hskipped
  have hfirst : id ∉ ids.take i := fun hmem => by cases hskipped.mpr (.inr hmem)
  cases hget : t.get? name id with
  | some old => cases hskipped.mpr (.inl (by rw [hget]; exact Option.some_ne_none old))
  | none => rw [get?_insertEach, if_pos rfl, hget, Option.none_or, Entries.get?_zip hid hfirst]

end

/-! ## Enumerations -/

theorem mem_records_iff {id : String} {record : Record} :
    (id, record) ∈ t.records name ↔ t.get? name id = some record :=
  Keyed.get?_eq_some_iff.symm

/-- The collection is there and holds no record. -/
def Hollow : Prop :=
  t.collections.get? name = some ∅

variable {t name}

theorem Hollow.get?_eq_none (h : t.Hollow name) (id : String) : t.get? name id = none := by
  rw [get?, collection, h]; rfl

theorem Filled.not_hollow (h : t.Filled) : ¬ t.Hollow name := by
  intro hname
  have hempty := h name ∅ hname
  cases hempty

/-- A collection is listed if it holds a record, and also if it holds none but is there. -/
theorem mem_names : name ∈ t.names ↔ (∃ id, t.get? name id ≠ none) ∨ t.Hollow name := by
  rw [names, Keyed.mem_keys]
  constructor
  · rintro ⟨records, hget⟩
    cases hempty : records.isEmpty with
    | true =>
      obtain rfl := Keyed.eq_empty_of_isEmpty hempty
      exact .inr hget
    | false =>
      obtain ⟨⟨id, record⟩, hentry⟩ := List.exists_mem_of_ne_nil _ (List.isEmpty_eq_false_iff.mp hempty)
      refine .inl ⟨id, ?_⟩
      rw [get?, collection, hget, Option.getD_some, Keyed.get?_eq_some_iff.mpr hentry]
      exact Option.some_ne_none record
  · rintro (⟨id, hid⟩ | hhollow)
    · cases hget : t.collections.get? name with
      | none => rw [get?, collection, hget] at hid; exact absurd rfl hid
      | some records => exact ⟨records, rfl⟩
    · exact ⟨∅, hhollow⟩

theorem mem_names_iff (name : String) (h : t.Filled) : name ∈ t.names ↔ ∃ id, t.get? name id ≠ none := by
  rw [mem_names, or_iff_left h.not_hollow]

/-- A tree is known by its records and its collections without records. -/
theorem ext_records {s t : Tree} (hget : ∀ name id, s.get? name id = t.get? name id)
    (hhollow : ∀ name, s.Hollow name ↔ t.Hollow name) : s = t := by
  refine ext_get? fun name => ?_
  have hlisted : name ∈ s.names ↔ name ∈ t.names := by
    simp only [mem_names, hget, hhollow]
  have hcollection : s.collection name = t.collection name := Keyed.ext_get? (hget name)
  rw [names, Keyed.mem_keys, names, Keyed.mem_keys] at hlisted
  unfold collection at hcollection
  cases hs : s.collections.get? name <;> cases ht : t.collections.get? name <;> simp_all

end Tree

end DocStore
