import DocStore.Proofs.Database.Operation
import DocStore.Proofs.Tree.Hollow

/-!
# Which collections are listed

A text may give a collection as an empty object. Such a collection is listed from the time the text is loaded until an
operation touches it; all others are listed exactly as long as they hold a record (`listed_after_loading`). So without
empty objects in the text, and in memory, each listed collection holds a record.
-/

namespace DocStore

namespace Operation

/-- The operation puts a record into the collection as long as it has none, or takes one out of it. -/
def Touches (name : String) : Operation → Prop
  | create collection _ _ | insert collection _ _ | delete collection _ => collection = name
  | createMany collection entries => entries ≠ [] ∧ collection = name
  | insertMany collection ids records => ids.length = records.length ∧ ids ≠ [] ∧ collection = name
  | _ => False

/-- One case for each operation: it leaves an empty collection if it does not touch it, and makes no other. -/
theorem hollow_change {op : Operation} {db : Database} {name : String} :
    (op.change db).tree.Hollow name ↔ db.tree.Hollow name ∧ ¬ op.Touches name := by
  cases op with
  | create collection id record => exact Tree.hollow_put
  | createMany collection entries =>
    simp only [change, Change.map, Tree.createMany, Touches, Tree.hollow_putAll, not_and]
  | insert collection id record =>
    simp only [change, Change.map, Tree.insert, Touches]
    split
    · rename_i htaken
      refine ⟨fun h => ⟨h, ?_⟩, And.left⟩
      rintro rfl
      rw [h.get?_eq_none] at htaken; cases htaken
    · exact Tree.hollow_put
  | insertMany collection ids records =>
    simp only [change, Change.map, Tree.insertMany, Touches]
    split
    · rename_i hlength
      have hzip : ids.zip records ≠ [] ↔ ids ≠ [] := by
        rw [ne_eq, List.zip_eq_nil_iff]
        constructor
        · exact fun h hids => h (.inl hids)
        · rintro h (hids | hrecords)
          · exact h hids
          · rw [hrecords] at hlength
            exact h (List.length_eq_zero_iff.mp hlength)
      simp only [Tree.hollow_insertEach, hzip, hlength, true_and, not_and]
    · rename_i hlength
      simp [hlength]
  | update collection id fields =>
    simp only [change, Change.map, Tree.update, Touches, not_false_eq_true, and_true]
    split
    · rfl
    · rename_i record hrecord
      rw [Tree.hollow_put, and_iff_left_iff_imp]
      rintro h rfl
      rw [h.get?_eq_none] at hrecord; cases hrecord
  | delete collection id => exact Tree.hollow_remove
  | read collection id => exact ⟨fun h => ⟨h, not_false⟩, And.left⟩
  | readAll collection => exact ⟨fun h => ⟨h, not_false⟩, And.left⟩
  | readWhere collection expression => exact ⟨fun h => ⟨h, not_false⟩, And.left⟩
  | collections => exact ⟨fun h => ⟨h, not_false⟩, And.left⟩

end Operation

/-- The operations were carried out in order, each on whatever the disk was then. Some may have failed to write. -/
inductive Worked : Database → List Operation → Database → Prop where
  | nil (db : Database) : Worked db [] db
  | cons {db db' : Database} {op : Operation} {ops : List Operation} (disk : Disk) :
      Worked (op.perform db disk).database ops db' → Worked db (op :: ops) db'

theorem Worked.hollow {db db' : Database} {ops : List Operation} (h : Worked db ops db') {name : String} :
    db'.tree.Hollow name ↔ db.tree.Hollow name ∧ ∀ op ∈ ops, ¬ op.Touches name := by
  induction h with
  | nil => simp
  | @cons db db' op ops disk _ ih =>
    rw [ih, op.perform_database, Operation.hollow_change, List.forall_mem_cons, and_assoc]

namespace Database

theorem reload_tree {db : Database} {disk : Disk} {path : String} {indent : Nat}
    (hmedium : db.medium = .file path indent) :
    (disk.has path = false → (db.reload disk).database.tree = ∅) ∧
      ∀ text, disk.has path = true → disk.read path = .ok text → (db.reload disk).database.tree = .ofText text := by
  refine ⟨fun hmissing => ?_, fun text hhas hread => ?_⟩
  · simp only [reload, hmedium]
    rw [if_neg (by rw [hmissing]; exact Bool.false_ne_true), flush_database]
  · rw [reload_of_read hmedium hhas hread]

/-- After a database was loaded and worked with, a collection is listed if it holds a record, or if it came empty with
the text and has not been touched since. -/
theorem listed_after_loading {db₀ db : Database} {disk : Disk} {ops : List Operation}
    (worked : Worked (db₀.reload disk).database ops db) (name : String) :
    (name ∈ db.collections ↔ (∃ id, db.read name id ≠ none) ∨
      (db₀.reload disk).database.tree.Hollow name ∧ ∀ op ∈ ops, ¬ op.Touches name) ∧
    ((db₀.reload disk).database.tree.Filled → (name ∈ db.collections ↔ ∃ id, db.read name id ≠ none)) ∧
    ∀ path indent, db₀.medium = .file path indent →
      (disk.has path = false → (db₀.reload disk).database.tree = ∅) ∧
        ∀ text, disk.has path = true → disk.read path = .ok text →
          (db₀.reload disk).database.tree = .ofText text := by
  have listed : name ∈ db.collections ↔ (∃ id, db.read name id ≠ none) ∨
      (db₀.reload disk).database.tree.Hollow name ∧ ∀ op ∈ ops, ¬ op.Touches name := by
    rw [← worked.hollow]; exact Tree.mem_names
  refine ⟨listed, fun hfilled => ?_, fun path indent => reload_tree⟩
  rw [listed, or_iff_left fun h => hfilled.not_hollow h.1]

def emptyCollection : Disk :=
  (∅ : Disk).set ["db.json"] (.file "\x7b\"a\":\x7b\x7d\x7d".toUTF8)

def unloaded : Database :=
  ⟨∅, .file "db.json" defaultIndent, Query.defaultMaxDepth⟩

def loadedEmpty : Database :=
  (unloaded.reload emptyCollection).database

theorem hollow_loadedEmpty : loadedEmpty.tree.Hollow "a" := by
  have hempty : (loadedEmpty.tree.collections.get? "a").map (·.isEmpty) = some true := by decide +kernel
  obtain ⟨records, hget, hnil⟩ := Option.map_eq_some_iff.mp hempty
  rw [Tree.Hollow, hget, Keyed.eq_empty_of_isEmpty hnil]

def afterDeleting : Database :=
  ((Operation.delete "a" "x").perform loadedEmpty emptyCollection).database

theorem worked_afterDeleting : Worked loadedEmpty [.delete "a" "x"] afterDeleting :=
  .cons emptyCollection (.nil _)

theorem read_afterDeleting (id : String) : afterDeleting.read "a" id = none := by
  rw [read, afterDeleting, Operation.perform_database]
  exact (Tree.get?_remove ..).trans (ite_eq_left_iff.mpr fun _ => hollow_loadedEmpty.get?_eq_none id)

/-- The collection is listed although it holds no record, until it is asked to delete one. -/
theorem listed_after_loading_empty :
    Worked loadedEmpty [] loadedEmpty ∧ "a" ∈ loadedEmpty.collections ∧ (∀ id, loadedEmpty.read "a" id = none) ∧
      Worked loadedEmpty [.delete "a" "x"] afterDeleting ∧ "a" ∉ afterDeleting.collections := by
  refine ⟨.nil _, ?_, hollow_loadedEmpty.get?_eq_none, worked_afterDeleting, fun hlisted => ?_⟩
  · exact (@listed_after_loading unloaded _ emptyCollection _ (.nil _) "a").1.mpr
      (.inr ⟨hollow_loadedEmpty, List.forall_mem_nil _⟩)
  · have h := (@listed_after_loading unloaded _ emptyCollection _ worked_afterDeleting "a").1.mp hlisted
    rcases h with ⟨id, hid⟩ | ⟨-, huntouched⟩
    · exact hid (read_afterDeleting id)
    · exact huntouched _ (List.mem_singleton_self _) rfl

end Database

end DocStore
