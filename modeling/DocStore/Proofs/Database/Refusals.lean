import DocStore.Proofs.Database.Collections
import DocStore.Proofs.Disk.Frame

/-!
# What a refusal leaves

An operation that is turned down writes nothing, and the tree stays as it was, unless a record was to be deleted from a
collection without records: then the collection goes. Such a collection has come with a text. Loading again that fails
keeps the tree as long as the path leads to something; otherwise the tree is empty before the file is made.
-/

namespace DocStore

def Outcome.Declined (outcome : Outcome Answer) : Prop :=
  (∃ refusal, outcome.answer = .error (.refused refusal)) ∨ outcome.answer = .ok (.found false)

/-! ## Deleting what is not there -/

namespace Tree

variable {t : Tree} {name id : String}

theorem remove_eq_self_iff (hid : t.get? name id = none) : t.remove name id = t ↔ ¬ t.Hollow name := by
  constructor
  · intro hsame hhollow
    rw [← hsame] at hhollow
    exact (hollow_remove.mp hhollow).2 rfl
  · intro hheld
    exact remove_of_get?_eq_none hid hheld

theorem Hollow.remove (h : t.Hollow name) (id : String) : t.remove name id = ⟨t.collections.erase name⟩ := by
  unfold Tree.remove
  rw [h]
  rfl

end Tree

/-! ## Operations -/

namespace Database

variable {db : Database} {disk : Disk}

theorem refused_of_commit {α : Type} {change : Change α} {refusal : Refusal}
    (h : (db.commit disk change).answer = .error (.refused refusal)) : change.answer = .error refusal := by
  unfold commit at h
  split at h
  · rename_i refusal' hrefused
    cases h; exact hrefused
  · dsimp only at h
    split at h
    · cases hflush : (flush { db with tree := change.tree } disk).answer with
      | ok u => rw [hflush] at h; cases h
      | error e =>
        obtain ⟨path, cause, rfl⟩ := inaccessible_of_flush hflush
        rw [hflush] at h; cases h
    · cases h

end Database

namespace Operation

variable {op : Operation} {db : Database} {disk : Disk}

theorem keep_of_not_found (h : (op.change db).answer = .ok (.found false)) : (op.change db).keep = false := by
  cases op with
  | insert collection id record =>
    simp only [change, Tree.insert] at h
    split at h <;> cases h
  | insertMany collection ids records =>
    simp only [change, Tree.insertMany] at h
    split at h <;> cases h
  | update collection id fields =>
    simp only [change, Tree.update] at h ⊢
    split at h
    · rfl
    · cases h
  | delete collection id =>
    simp only [change, Tree.delete, Change.map, Except.map] at h ⊢
    cases hfound : (db.tree.get? collection id).isSome with
    | false => rfl
    | true => rw [hfound] at h; cases h
  | _ => cases h

theorem keep_of_declined (h : (op.perform db disk).Declined) : (op.change db).keep = false := by
  rw [op.perform_eq_commit] at h
  rcases h with ⟨refusal, h⟩ | h
  · exact keep_of_refused (Database.refused_of_commit h)
  · exact keep_of_not_found (Database.answer_of_commit h)

theorem declined_delete {collection id : String} (hid : db.tree.get? collection id = none) :
    ((delete collection id).perform db disk).Declined := by
  refine .inr ?_
  simp [perform, Tree.delete, hid, Database.commit, Outcome.map, Except.map]

theorem declined_update {collection id : String} {fields : Record} (hid : db.tree.get? collection id = none) :
    ((update collection id fields).perform db disk).Declined := by
  refine .inr ?_
  simp [perform, Tree.update, hid, Database.commit, Outcome.map, Except.map]

theorem disk_of_declined (h : (op.perform db disk).Declined) : (op.perform db disk).disk = disk := by
  have hkeep := keep_of_declined h
  rw [op.perform_eq_commit, Database.commit_disk_of_not_keep hkeep]

/-- Of what is turned down, only a delete in a collection without records shows in memory. -/
theorem database_of_declined_iff (h : (op.perform db disk).Declined) :
    (op.perform db disk).database = db ↔ ∀ collection id, op = .delete collection id → ¬ db.tree.Hollow collection := by
  have hkeep := keep_of_declined h
  have htree : (op.perform db disk).database = db ↔ (op.change db).tree = db.tree := by
    rw [op.perform_database]
    constructor
    · exact congrArg Database.tree
    · intro htree; rw [htree]
  rw [htree]
  rcases tree_of_keep_eq_false hkeep with hsame | ⟨collection, id, rfl, hid, hremoved⟩
  · refine iff_of_true hsame fun collection id hop hhollow => ?_
    subst hop
    exact (Tree.remove_eq_self_iff (hhollow.get?_eq_none id)).mp hsame hhollow
  · rw [hremoved, Tree.remove_eq_self_iff hid]
    constructor
    · rintro hheld _ _ ⟨⟩
      exact hheld
    · intro hheld
      exact hheld collection id rfl

end Operation

/-! ## Loading -/

namespace Database

variable {db : Database} {disk : Disk} {path : String} {indent : Nat}

theorem reload_memory (hmedium : db.medium = .memory) : db.reload disk = ⟨.ok (), db, disk⟩ := by
  simp only [reload, hmedium]

theorem reload_error_of_present (hmedium : db.medium = .file path indent) {e : StoreError}
    (h : (db.reload disk).answer = .error e) (present : disk.has path = true) :
    db.reload disk = ⟨.error e, db, disk⟩ := by
  simp only [reload, hmedium, present, if_true] at h ⊢
  cases hread : disk.read path with
  | ok text => rw [hread] at h; cases h
  | error cause => rw [hread] at h; cases h; rfl

theorem reload_error_of_absent (hmedium : db.medium = .file path indent) {e : StoreError}
    (h : (db.reload disk).answer = .error e) (absent : disk.has path = false) :
    (db.reload disk).database = { db with tree := ∅ } ∧
      ∀ place, disk.Untorn place → ∀ bytes, (db.reload disk).disk.node? place = some (.file bytes) ↔
        disk.node? place = some (.file bytes) := by
  simp only [reload, hmedium, absent, Bool.false_eq_true, if_false] at h ⊢
  refine ⟨flush_database _ _, fun place huntorn bytes => ?_⟩
  rw [flush_file rfl] at h ⊢
  cases hsave : (disk.save path ((∅ : Tree).encode indent)).1 with
  | ok u => rw [hsave] at h; cases h
  | error cause => exact Disk.file_iff_of_save_error hsave huntorn

/-- What is turned down leaves all files alone, and the tree too unless a delete names a collection that came empty with
the text and has not been touched since. Loading that fails leaves all files alone as well, as long as the disk leaves
none torn, and the tree only if the path leads to something. -/
theorem declined_leaves_tree_iff {db₀ : Database} {disk₀ : Disk} {ops : List Operation}
    (worked : Worked (db₀.reload disk₀).database ops db) (disk : Disk) :
    (∀ op : Operation, (op.perform db disk).Declined →
      (op.perform db disk).disk = disk ∧
      ((op.perform db disk).database = db ↔ ∀ collection id, op = .delete collection id →
        ¬ ((db₀.reload disk₀).database.tree.Hollow collection ∧ ∀ earlier ∈ ops, ¬ earlier.Touches collection)) ∧
      ∀ collection id, op = .delete collection id → db.tree.Hollow collection →
        (op.perform db disk).database.tree = ⟨db.tree.collections.erase collection⟩) ∧
    ∀ e, (db.reload disk).answer = .error e → ∃ path indent, db.medium = .file path indent ∧
      (∀ place, disk.Untorn place → ∀ bytes, (db.reload disk).disk.node? place = some (.file bytes) ↔
        disk.node? place = some (.file bytes)) ∧
      ((db.reload disk).database = db ↔ disk.has path = true ∨ db.tree = ∅) := by
  constructor
  · intro op hdeclined
    refine ⟨Operation.disk_of_declined hdeclined, ?_, ?_⟩
    · rw [Operation.database_of_declined_iff hdeclined]
      simp only [worked.hollow]
    · rintro collection id rfl hhollow
      rw [Operation.perform_eq_commit, commit_database]
      exact hhollow.remove id
  · intro e herror
    cases hmedium : db.medium with
    | memory => rw [reload_memory hmedium] at herror; cases herror
    | file path indent =>
      refine ⟨path, indent, rfl, ?_⟩
      cases hhas : disk.has path with
      | true =>
        rw [reload_error_of_present hmedium herror hhas]
        exact ⟨fun _ _ _ => Iff.rfl, iff_of_true rfl (.inl rfl)⟩
      | false =>
        obtain ⟨hdatabase, hfiles⟩ := reload_error_of_absent hmedium herror hhas
        refine ⟨hfiles, ?_⟩
        rw [hdatabase]
        constructor
        · intro hsame
          exact .inr (congrArg Database.tree hsame).symm
        · rintro (hpresent | hempty)
          · cases hpresent
          · rw [← hempty]

def located : Database :=
  ⟨∅, .file "d/db.json" defaultIndent, Query.defaultMaxDepth⟩

def holding : Database :=
  ((Operation.insert "c" "x" []).perform (located.reload ∅).database ∅).database

def blocked : Disk :=
  (∅ : Disk).set ["d"] (.file "".toUTF8)

theorem worked_holding : Worked (located.reload ∅).database [.insert "c" "x" []] holding :=
  .cons ∅ (.nil _)

theorem reload_blocked : (holding.reload blocked).answer = .error (.inaccessible "d/db.json" .present) := by
  rfl

/-- An update that finds no record leaves the tree with the empty collection in it, a delete does not. Loading leaves
nothing in memory once the directory of the file is lost. -/
theorem declined_leaves_tree_iff_empty :
    Worked loadedEmpty [] loadedEmpty ∧
      ((Operation.update "a" "x" []).perform loadedEmpty emptyCollection).Declined ∧
      ((Operation.update "a" "x" []).perform loadedEmpty emptyCollection).database = loadedEmpty ∧
      ((Operation.delete "a" "x").perform loadedEmpty emptyCollection).Declined ∧
      ((Operation.delete "a" "x").perform loadedEmpty emptyCollection).disk = emptyCollection ∧
      ((Operation.delete "a" "x").perform loadedEmpty emptyCollection).database ≠ loadedEmpty ∧
      Worked (located.reload ∅).database [.insert "c" "x" []] holding ∧
      (holding.reload blocked).answer = .error (.inaccessible "d/db.json" .present) ∧
      (holding.reload blocked).database ≠ holding := by
  have habsent := hollow_loadedEmpty.get?_eq_none "x"
  have hupdate := @Operation.declined_update loadedEmpty emptyCollection "a" "x" [] habsent
  have hdelete := @Operation.declined_delete loadedEmpty emptyCollection "a" "x" habsent
  obtain ⟨hoperations, -⟩ :=
    @declined_leaves_tree_iff loadedEmpty unloaded emptyCollection [] (.nil _) emptyCollection
  obtain ⟨-, hloading⟩ := declined_leaves_tree_iff worked_holding blocked
  refine ⟨.nil _, hupdate, ?_, hdelete, (hoperations _ hdelete).1, ?_, worked_holding, reload_blocked, ?_⟩
  · exact (hoperations _ hupdate).2.1.mpr nofun
  · intro hsame
    exact (hoperations _ hdelete).2.1.mp hsame "a" "x" rfl ⟨hollow_loadedEmpty, List.forall_mem_nil _⟩
  · intro hsame
    obtain ⟨path, indent, hmedium, -, hiff⟩ := hloading _ reload_blocked
    cases hmedium
    have htree : holding.tree ≠ ∅ := fun hempty =>
      absurd (congrArg Tree.names hempty) (by decide +kernel)
    rcases hiff.mp hsame with hpresent | hempty
    · exact absurd hpresent (by decide +kernel)
    · exact htree hempty

end Database

end DocStore
