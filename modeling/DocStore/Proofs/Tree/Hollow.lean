import DocStore.Proofs.Tree.Contents

/-!
# Collections without records

No change makes a collection that holds nothing: one that is there was there before, and goes as soon as a record is
put into it or taken out of it. The names of a tree are those of the collections with records and of those without
(`mem_names`).
-/

namespace DocStore.Tree

variable {t : Tree} {name : String}

/-! ## Puts and removals -/

theorem hollow_put {collection id : String} {record : Record} :
    (t.put collection id record).Hollow name ↔ t.Hollow name ∧ collection ≠ name := by
  unfold Hollow put
  rw [Keyed.get?_insert]
  by_cases hname : name = collection
  · have hne : ∀ records : Keyed Record, records.insert id record ≠ ∅ := by
      intro records h
      have hself := Keyed.isEmpty_insert records id record
      rw [h] at hself; cases hself
    simp [hname, hne]
  · simp [hname, Ne.symm hname]

theorem hollow_remove {collection id : String} :
    (t.remove collection id).Hollow name ↔ t.Hollow name ∧ collection ≠ name := by
  unfold Hollow remove
  cases hget : t.collections.get? collection with
  | none =>
    refine ⟨fun h => ⟨h, ?_⟩, And.left⟩
    rintro rfl
    rw [h] at hget; cases hget
  | some records =>
    dsimp only
    split
    · rw [Keyed.get?_erase]
      by_cases hname : name = collection
      · simp [hname]
      · simp [hname, Ne.symm hname]
    · rename_i hrest
      rw [Keyed.get?_insert]
      by_cases hname : name = collection
      · have hne : records.erase id ≠ ∅ := fun h => hrest (by rw [h]; rfl)
        simp [hname, hne]
      · simp [hname, Ne.symm hname]

theorem hollow_putAll {collection : String} {entries : List (String × Record)} :
    (t.putAll collection entries).Hollow name ↔ t.Hollow name ∧ (entries ≠ [] → collection ≠ name) := by
  induction entries generalizing t with
  | nil => simp [putAll]
  | cons e entries ih =>
    have hput : t.putAll collection (e :: entries) = (t.put collection e.1 e.2).putAll collection entries := rfl
    rw [hput, ih, hollow_put]
    by_cases hname : collection = name <;> simp [hname]

/-- In a collection without records each id is free, so the first entry is put in. -/
theorem hollow_insertEach {collection : String} {entries : List (String × Record)} :
    (t.insertEach collection entries).1.Hollow name ↔ t.Hollow name ∧ (entries ≠ [] → collection ≠ name) := by
  induction entries generalizing t with
  | nil => simp [insertEach]
  | cons e entries ih =>
    obtain ⟨id, record⟩ := e
    rw [insertEach]
    split
    · rename_i htaken
      have hheld : ¬ t.Hollow collection := by
        intro h
        rw [h.get?_eq_none] at htaken; cases htaken
      dsimp only
      rw [ih]
      by_cases hname : collection = name
      · rw [hname] at hheld
        simp [hheld]
      · simp [hname]
    · dsimp only
      rw [ih, hollow_put]
      by_cases hname : collection = name <;> simp [hname]

end DocStore.Tree
