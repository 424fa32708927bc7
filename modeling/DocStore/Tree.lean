import DocStore.Value.Basic

/-!
# Trees of collections

A tree holds records by collection and id, both in key order. A collection comes into being with its first record;
taking out a record takes its collection along if none is left. Look-ups after each operation are given by
`get?_put` and `get?_remove`.
-/

namespace DocStore

structure Tree where
  collections : Keyed (Keyed Record)
deriving Inhabited

namespace Tree

def empty : Tree := ⟨∅⟩

instance : EmptyCollection Tree := ⟨empty⟩

def names (t : Tree) : List String :=
  t.collections.keys

def collection (t : Tree) (name : String) : Keyed Record :=
  (t.collections.get? name).getD ∅

def records (t : Tree) (name : String) : List (String × Record) :=
  (t.collection name).entries

def get? (t : Tree) (name id : String) : Option Record :=
  (t.collection name).get? id

def put (t : Tree) (name id : String) (record : Record) : Tree :=
  ⟨t.collections.insert name ((t.collection name).insert id record)⟩

/-- Takes a record out. A collection that is then empty goes too, even if it was empty before. -/
def remove (t : Tree) (name id : String) : Tree :=
  match t.collections.get? name with
  | none => t
  | some records =>
    let rest := records.erase id
    if rest.isEmpty then ⟨t.collections.erase name⟩ else ⟨t.collections.insert name rest⟩

theorem ext_get? {s t : Tree} (h : ∀ name, s.collections.get? name = t.collections.get? name) : s = t := by
  cases s
  cases t
  exact congrArg Tree.mk (Keyed.ext_get? h)

@[simp] theorem get?_empty (name id : String) : (∅ : Tree).get? name id = none := rfl

theorem get?_put (t : Tree) (name id name' id' : String) (record : Record) :
    (t.put name id record).get? name' id' =
      if name' = name ∧ id' = id then some record else t.get? name' id' := by
  simp only [get?, put, collection, Keyed.get?_insert]
  by_cases hname : name' = name
  · subst hname
    simp [Keyed.get?_insert]
  · simp [hname]

theorem get?_remove (t : Tree) (name id name' id' : String) :
    (t.remove name id).get? name' id' =
      if name' = name ∧ id' = id then none else t.get? name' id' := by
  unfold remove
  split
  · rename_i hnone
    by_cases h : name' = name
    · subst h
      simp [get?, collection, hnone]
    · simp [h]
  · rename_i records hsome
    simp only
    split
    · rename_i hempty
      simp only [get?, collection, Keyed.get?_erase]
      by_cases h : name' = name
      · subst h
        have hnil : records.erase id = ∅ := Keyed.eq_empty_of_isEmpty hempty
        have := congrArg (fun m => Keyed.get? m id') hnil
        simp only [Keyed.get?_erase, Keyed.get?_empty] at this
        simp only [if_true, hsome, Option.getD_some, Option.getD_none, Keyed.get?_empty, true_and]
        split
        · rfl
        · rename_i hne
          simpa [hne] using this.symm
      · simp [h]
    · simp only [get?, collection, Keyed.get?_insert]
      by_cases h : name' = name
      · subst h
        simp [hsome, Keyed.get?_erase]
      · simp [h]

end Tree

end DocStore
