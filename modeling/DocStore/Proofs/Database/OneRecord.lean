import DocStore.Proofs.Database.Collections

/-!
# Operations on one record

Four operations look at one record, under a collection and an id, and change no other (`change_congr`,
`get?_change_of_key`). Collections without records go when they are touched, in whatever order. So operations on
different records can be carried out in either order (`operations_commute`).
-/

namespace DocStore

namespace Operation

def key? : Operation → Option (String × String)
  | create collection id _ | insert collection id _ | update collection id _ | delete collection id =>
    some (collection, id)
  | _ => none

variable {op op' : Operation} {db db' : Database} {key key' : String × String}

theorem keep_of_success (hkey : op.key? = some key) {answer : Answer} (h : (op.change db).answer = .ok answer)
    (hfound : answer ≠ .found false) : (op.change db).keep = true := by
  cases op with
  | create collection id record => rfl
  | insert collection id record =>
    simp only [change, Tree.insert] at h ⊢
    split at h
    · cases h
    · rename_i hid; rw [if_neg hid]; rfl
  | update collection id fields =>
    simp only [change, Tree.update] at h ⊢
    split at h
    · cases h; exact absurd rfl hfound
    · rfl
  | delete collection id =>
    cases h
    simpa [change, Tree.delete, Change.map, Option.isSome_iff_ne_none] using hfound
  | _ => cases hkey

/-! ## What they change -/

theorem get?_change_of_key (hkey : op.key? = some key) {collection id : String} (hother : (collection, id) ≠ key) :
    (op.change db).tree.get? collection id = db.tree.get? collection id := by
  have hput : ∀ record, (db.tree.put key.1 key.2 record).get? collection id = db.tree.get? collection id := by
    intro record
    rw [Tree.get?_put, if_neg]
    rintro ⟨rfl, rfl⟩
    exact hother rfl
  cases op with
  | create collection' id' record => cases hkey; exact hput record
  | insert collection' id' record =>
    cases hkey
    simp only [change, Tree.insert]
    split
    · rfl
    · exact hput record
  | update collection' id' fields =>
    cases hkey
    simp only [change, Tree.update]
    split
    · rfl
    · exact hput _
  | delete collection' id' =>
    cases hkey
    simp only [change, Tree.delete, Change.map]
    rw [Tree.get?_remove, if_neg]
    rintro ⟨rfl, rfl⟩
    exact hother rfl
  | _ => cases hkey

/-! ## What they look at -/

/-- The answer and the record afterwards only depend on the record before. -/
theorem change_congr {collection id : String} (hkey : op.key? = some (collection, id))
    (h : db.tree.get? collection id = db'.tree.get? collection id) :
    (op.change db).answer = (op.change db').answer ∧
      (op.change db).tree.get? collection id = (op.change db').tree.get? collection id := by
  have hput : ∀ record, (db.tree.put collection id record).get? collection id =
      (db'.tree.put collection id record).get? collection id := by
    intro record
    rw [Tree.get?_put, Tree.get?_put, if_pos ⟨rfl, rfl⟩, if_pos ⟨rfl, rfl⟩]
  cases op with
  | create collection id record =>
    cases hkey
    exact ⟨rfl, hput record⟩
  | insert collection id record =>
    cases hkey
    simp only [change, Tree.insert, ← h]
    split
    · exact ⟨rfl, h⟩
    · exact ⟨rfl, hput record⟩
  | update collection id fields =>
    cases hkey
    simp only [change, Tree.update, ← h]
    split
    · exact ⟨rfl, h⟩
    · exact ⟨rfl, hput _⟩
  | delete collection id =>
    cases hkey
    simp only [change, Tree.delete, Change.map]
    rw [h, Tree.get?_remove, Tree.get?_remove, if_pos ⟨rfl, rfl⟩, if_pos ⟨rfl, rfl⟩]
    exact ⟨rfl, rfl⟩
  | _ => cases hkey

end Operation

/-! ## Either order -/

namespace Database

variable {op op' : Operation} {key key' : String × String}

section
variable (hkey : op.key? = some key) (hkey' : op'.key? = some key') (hne : key ≠ key')
include hkey hkey' hne

/-- What an operation answers and makes of its record is the same behind an operation on another record. -/
theorem change_behind {db db' : Database} (htree : db'.tree = (op'.change db).tree) :
    (op.change db').answer = (op.change db).answer ∧
      (op.change db').tree.get? key.1 key.2 = (op.change db).tree.get? key.1 key.2 := by
  refine Operation.change_congr hkey ?_
  rw [htree]
  exact Operation.get?_change_of_key hkey' hne

/-- Either order leads to the same tree. -/
theorem change_comm {db db₁ db₂ : Database} (htree : db₁.tree = (op.change db).tree)
    (htree' : db₂.tree = (op'.change db).tree) : (op'.change db₁).tree = (op.change db₂).tree := by
  refine Tree.ext_records (fun collection id => ?_) (fun name => ?_)
  · by_cases hfirst : (collection, id) = key
    · subst hfirst
      rw [Operation.get?_change_of_key hkey' hne, htree]
      exact (change_behind hkey hkey' hne htree').2.symm
    by_cases hsecond : (collection, id) = key'
    · subst hsecond
      rw [Operation.get?_change_of_key hkey hne.symm, htree']
      exact (change_behind hkey' hkey hne.symm htree).2
    · calc (op'.change db₁).tree.get? collection id
        _ = db.tree.get? collection id := by
          rw [Operation.get?_change_of_key hkey' hsecond, htree, Operation.get?_change_of_key hkey hfirst]
        _ = (op.change db₂).tree.get? collection id := by
          rw [Operation.get?_change_of_key hkey hfirst, htree', Operation.get?_change_of_key hkey' hsecond]
  · -- an empty collection stays if neither of the two touches it
    rw [Operation.hollow_change, Operation.hollow_change, htree, htree', Operation.hollow_change,
      Operation.hollow_change, and_right_comm]

end

/-- Two operations on different records can be carried out in either order. Both ends are the same database, with the
same collections, also if the file could not be written on the way; and as long as it can, each of the two gets the same
answer. In memory this is always so. -/
theorem operations_commute (hkey : op.key? = some key) (hkey' : op'.key? = some key') (hne : key ≠ key')
    (db : Database) :
    (∀ db₁ db₂, Worked db [op, op'] db₁ → Worked db [op', op] db₂ → db₁ = db₂) ∧
    (∀ disk disk' db₁ disk₁ db₂ disk₂, Served db disk [op, op'] db₁ disk₁ → Served db disk' [op', op] db₂ disk₂ →
      db.answers disk' [op', op] = (db.answers disk [op, op']).reverse) ∧
    (db.medium = .memory → ∀ disk disk', db.answers disk' [op', op] = (db.answers disk [op, op']).reverse) := by
  have swapped : ∀ disk disk' db₁ disk₁ db₂ disk₂, Served db disk [op, op'] db₁ disk₁ →
      Served db disk' [op', op] db₂ disk₂ → db.answers disk' [op', op] = (db.answers disk [op, op']).reverse := by
    rintro disk disk' db₁ disk₁ db₂ disk₂ (_ | ⟨hop, _ | ⟨hop', -⟩⟩) (_ | ⟨hother', _ | ⟨hother, -⟩⟩)
    have hfirst : (op.change (op'.perform db disk').database).answer = (op.change db).answer :=
      (change_behind hkey hkey' hne (by rw [Operation.perform_database])).1
    have hsecond : (op'.change (op.perform db disk).database).answer = (op'.change db).answer :=
      (change_behind hkey' hkey hne.symm (by rw [Operation.perform_database])).1
    simp only [answers, List.reverse_cons, List.reverse_nil, List.nil_append, List.cons_append]
    rw [Operation.answer_of_stored hop, Operation.answer_of_stored hop', Operation.answer_of_stored hother',
      Operation.answer_of_stored hother, hfirst, hsecond]
  refine ⟨?_, swapped, fun hmemory disk disk' => ?_⟩
  · rintro db₁ db₂ (_ | ⟨disk₁, _ | ⟨disk₂, _ | _⟩⟩) (_ | ⟨disk₃, _ | ⟨disk₄, _ | _⟩⟩)
    have htree : (op'.change { db with tree := (op.change db).tree }).tree =
        (op.change { db with tree := (op'.change db).tree }).tree := change_comm hkey hkey' hne rfl rfl
    simp only [Operation.perform_database, htree]
  · obtain ⟨db₁, hserved⟩ := exists_served_memory hmemory disk [op, op']
    obtain ⟨db₂, hserved'⟩ := exists_served_memory hmemory disk' [op', op]
    exact swapped disk disk' db₁ disk db₂ disk' hserved hserved'

def oneHollow : Database :=
  ⟨⟨(∅ : Keyed (Keyed Record)).insert "a" ∅⟩, .memory, Query.defaultMaxDepth⟩

/-- The delete drops the collection and the insert makes it: both orders end with the collection and its one record. -/
theorem operations_commute_hollow :
    (Operation.delete "a" "x").key? = some ("a", "x") ∧ (Operation.insert "a" "y" []).key? = some ("a", "y") ∧
      ("a", "x") ≠ ("a", "y") ∧
      (∃ db, Worked oneHollow [.delete "a" "x", .insert "a" "y" []] db ∧
        Worked oneHollow [.insert "a" "y" [], .delete "a" "x"] db ∧ db.collections = ["a"] ∧ db.read "a" "y" = some []) ∧
      oneHollow.answers ∅ [.delete "a" "x", .insert "a" "y" []] = [.ok (.found false), .ok .done] ∧
      oneHollow.answers ∅ [.insert "a" "y" [], .delete "a" "x"] = [.ok .done, .ok (.found false)] := by
  have hanswers : oneHollow.answers ∅ [.delete "a" "x", .insert "a" "y" []] = [.ok (.found false), .ok .done] := rfl
  obtain ⟨hends, -, hswapped⟩ := @operations_commute (.delete "a" "x") (.insert "a" "y" []) ("a", "x") ("a", "y")
    rfl rfl (by decide) oneHollow
  have worked : Worked oneHollow [.delete "a" "x", .insert "a" "y" []] _ := .cons ∅ (.cons ∅ (.nil _))
  have worked' : Worked oneHollow [.insert "a" "y" [], .delete "a" "x"] _ := .cons ∅ (.cons ∅ (.nil _))
  refine ⟨rfl, rfl, by decide, ⟨_, worked, ?_, rfl, rfl⟩, hanswers, ?_⟩
  · rw [hends _ _ worked worked']; exact worked'
  · rw [hswapped rfl ∅ ∅, hanswers]; rfl

end Database

end DocStore
