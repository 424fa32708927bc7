import DocStore.Database
import DocStore.Proofs.Disk.Saving
import DocStore.Proofs.Tree.Changes

/-!
# Operations one after another

What can be asked of a database, as data. Each operation is the commit of one change (`perform_eq_commit`), so a whole
sequence keeps what changes keep, and after each step whose writing succeeds the file holds the tree.
-/

namespace DocStore

def Change.map {α β : Type} (f : α → β) (change : Change α) : Change β :=
  ⟨change.tree, change.answer.map f, change.keep⟩

namespace Outcome

variable {α β : Type}

def map (f : α → β) (outcome : Outcome α) : Outcome β :=
  ⟨outcome.answer.map f, outcome.database, outcome.disk⟩

/-- Nothing went wrong with the file; the operation may still have been refused. -/
def Stored (outcome : Outcome α) : Prop :=
  ∀ path cause, outcome.answer ≠ .error (.inaccessible path cause)

end Outcome

inductive Answer where
  | id (id : String)
  | ids (ids : List String)
  | done
  | flags (flags : List Bool)
  | found (found : Bool)
  | record (record : Option Record)
  | documents (documents : List Document)
  | names (names : List String)

/-- An operation with its arguments; ids of new records are given with it. -/
inductive Operation where
  | create (collection id : String) (record : Record)
  | createMany (collection : String) (entries : List (String × Record))
  | insert (collection id : String) (record : Record)
  | insertMany (collection : String) (ids : List String) (records : List Record)
  | update (collection id : String) (fields : Record)
  | delete (collection id : String)
  | read (collection id : String)
  | readAll (collection : String)
  | readWhere (collection expression : String)
  | collections

namespace Operation

def perform (op : Operation) (db : Database) (disk : Disk) : Outcome Answer :=
  match op with
  | create collection id record => (db.commit disk (db.tree.create collection id record)).map .id
  | createMany collection entries => (db.commit disk (db.tree.createMany collection entries)).map .ids
  | insert collection id record => (db.commit disk (db.tree.insert collection id record)).map fun _ => .done
  | insertMany collection ids records => (db.commit disk (db.tree.insertMany collection ids records)).map .flags
  | update collection id fields => (db.commit disk (db.tree.update collection id fields)).map .found
  | delete collection id => (db.commit disk (db.tree.delete collection id)).map .found
  | read collection id => ⟨.ok (.record (db.read collection id)), db, disk⟩
  | readAll collection => ⟨.ok (.documents (db.readAll collection)), db, disk⟩
  | readWhere collection expression => ⟨.ok (.documents (db.readWhere collection expression)), db, disk⟩
  | collections => ⟨.ok (.names db.collections), db, disk⟩

def change (op : Operation) (db : Database) : Change Answer :=
  match op with
  | create collection id record => (db.tree.create collection id record).map .id
  | createMany collection entries => (db.tree.createMany collection entries).map .ids
  | insert collection id record => (db.tree.insert collection id record).map fun _ => .done
  | insertMany collection ids records => (db.tree.insertMany collection ids records).map .flags
  | update collection id fields => (db.tree.update collection id fields).map .found
  | delete collection id => (db.tree.delete collection id).map .found
  | read collection id => ⟨db.tree, .ok (.record (db.read collection id)), false⟩
  | readAll collection => ⟨db.tree, .ok (.documents (db.readAll collection)), false⟩
  | readWhere collection expression => ⟨db.tree, .ok (.documents (db.readWhere collection expression)), false⟩
  | collections => ⟨db.tree, .ok (.names db.collections), false⟩

def records : Operation → List Record
  | create _ _ record | insert _ _ record | update _ _ record => [record]
  | createMany _ entries => entries.map (·.2)
  | insertMany _ _ records => records
  | _ => []

end Operation

/-! ## Commits -/

namespace Database

variable {α β : Type} (db : Database) (disk : Disk)

@[simp] theorem flush_database : (db.flush disk).database = db := by
  unfold flush; split <;> rfl

@[simp] theorem commit_database (change : Change α) :
    (db.commit disk change).database = { db with tree := change.tree } := by
  unfold commit
  split
  · rfl
  · dsimp only
    split
    · exact flush_database _ _
    · rfl

theorem commit_map (change : Change α) (f : α → β) :
    (db.commit disk change).map f = db.commit disk (change.map f) := by
  obtain ⟨tree, answer, keep⟩ := change
  cases answer with
  | error refusal => rfl
  | ok a =>
    unfold commit Change.map
    dsimp only [Except.map]
    split
    · dsimp only [Outcome.map]
      cases (flush { db with tree := tree } disk).answer <;> rfl
    · rfl

section
variable {db disk}

theorem flush_file {path : String} {indent : Nat} (hmedium : db.medium = .file path indent) :
    db.flush disk = ⟨(disk.save path (db.tree.encode indent)).1.mapError (.inaccessible path), db,
      (disk.save path (db.tree.encode indent)).2⟩ := by
  simp only [flush, hmedium]

theorem commit_disk_of_not_keep {change : Change α} (h : change.keep = false) :
    (db.commit disk change).disk = disk := by
  unfold commit
  split
  · rfl
  · rw [h]; rfl

theorem inaccessible_of_flush {e : StoreError} (h : (db.flush disk).answer = .error e) :
    ∃ path cause, e = .inaccessible path cause := by
  unfold flush at h
  split at h
  · cases h
  · rename_i path indent hmedium
    cases hsave : (disk.save path (db.tree.encode indent)).1 with
    | ok u => simp only [hsave] at h; cases h
    | error cause => simp only [hsave] at h; cases h; exact ⟨path, cause, rfl⟩

/-- As long as nothing goes wrong with the file, the answer is that of the change. -/
theorem answer_commit_of_stored {change : Change α} (h : (db.commit disk change).Stored) :
    (db.commit disk change).answer = change.answer.mapError .refused := by
  unfold commit at h ⊢
  split
  · rename_i refusal hrefused
    rw [hrefused]; rfl
  · rename_i a ha
    rw [ha] at h ⊢
    dsimp only at h ⊢
    split
    · rename_i hkeep
      rw [if_pos hkeep] at h
      cases hflush : (flush { db with tree := change.tree } disk).answer with
      | ok u => rfl
      | error e =>
        obtain ⟨path, cause, rfl⟩ := inaccessible_of_flush hflush
        exact absurd (by rw [hflush]; rfl) (h path cause)
    · rfl

theorem answer_of_commit {change : Change α} {a : α} (h : (db.commit disk change).answer = .ok a) :
    change.answer = .ok a := by
  unfold commit at h
  split at h
  · cases h
  · rename_i b hb
    dsimp only at h
    split at h
    · cases hflush : (flush { db with tree := change.tree } disk).answer with
      | error e => rw [hflush] at h; cases h
      | ok u => rw [hflush] at h; cases h; exact hb
    · cases h; exact hb

end

end Database

theorem Operation.perform_eq_commit (op : Operation) (db : Database) (disk : Disk) :
    op.perform db disk = db.commit disk (op.change db) := by
  cases op <;> first | exact Database.commit_map .. | rfl

theorem Operation.perform_database (op : Operation) (db : Database) (disk : Disk) :
    (op.perform db disk).database = { db with tree := (op.change db).tree } := by
  rw [op.perform_eq_commit, Database.commit_database]

theorem Operation.answer_of_stored {op : Operation} {db : Database} {disk : Disk} (h : (op.perform db disk).Stored) :
    (op.perform db disk).answer = (op.change db).answer.mapError .refused := by
  rw [op.perform_eq_commit] at h ⊢
  exact Database.answer_commit_of_stored h

theorem Database.perform_memory {db : Database} (hmemory : db.medium = .memory) (disk : Disk) (op : Operation) :
    op.perform db disk =
      ⟨(op.change db).answer.mapError .refused, { db with tree := (op.change db).tree }, disk⟩ := by
  rw [op.perform_eq_commit]
  unfold commit flush
  cases (op.change db).answer with
  | error refusal => rfl
  | ok answer =>
    dsimp only
    split
    · simp only [hmemory]; rfl
    · rfl

/-! ## What an operation keeps -/

/-- One case for each operation: its change is made of puts and removals. -/
theorem Tree.Kept.change {p : Tree → Prop} {q : Record → Prop} (hk : Tree.Kept p q) {op : Operation} {db : Database}
    (hp : p db.tree) (hq : ∀ record ∈ op.records, q record) : p (op.change db).tree := by
  cases op with
  | create collection id record => exact hk.put hp (hq record (List.mem_cons_self ..)) collection id
  | createMany collection entries =>
    exact hk.putAll hp (fun e he => hq e.2 (List.mem_map_of_mem he)) collection
  | insert collection id record =>
    simp only [Operation.change, Tree.insert]
    split
    · exact hp
    · exact hk.put hp (hq record (List.mem_cons_self ..)) collection id
  | insertMany collection ids records =>
    simp only [Operation.change, Tree.insertMany]
    split
    · exact hk.insertEach hp (fun e he => hq e.2 (List.of_mem_zip he).2) collection
    · exact hp
  | update collection id fields =>
    simp only [Operation.change, Tree.update]
    split
    · exact hp
    · rename_i record hrecord
      exact hk.put hp (hk.merge hp hrecord (hq fields (List.mem_cons_self ..))) collection id
  | delete collection id => exact hk.remove hp collection id
  | read collection id => exact hp
  | readAll collection => exact hp
  | readWhere collection expression => exact hp
  | collections => exact hp

namespace Operation

variable {op : Operation} {db : Database}

theorem keep_of_refused {refusal : Refusal} (h : (op.change db).answer = .error refusal) :
    (op.change db).keep = false := by
  cases op with
  | insert collection id record =>
    simp only [change, Tree.insert] at h ⊢
    split at h
    · rename_i hid; rw [if_pos hid]; rfl
    · cases h
  | insertMany collection ids records =>
    simp only [change, Tree.insertMany] at h ⊢
    split at h
    · cases h
    · rename_i hlength; rw [if_neg hlength]; rfl
  | update collection id fields =>
    simp only [change, Tree.update] at h
    split at h <;> cases h
  | _ => cases h

/-- What is not kept has not changed anything, unless a record was to be deleted that is not there. -/
theorem tree_of_keep_eq_false (h : (op.change db).keep = false) :
    (op.change db).tree = db.tree ∨ ∃ collection id, op = .delete collection id ∧
      db.tree.get? collection id = none ∧ (op.change db).tree = db.tree.remove collection id := by
  cases op with
  | create collection id record => cases h
  | createMany collection entries => cases h
  | insert collection id record =>
    simp only [change, Tree.insert] at h ⊢
    split at h
    · rename_i hid; rw [if_pos hid]; exact .inl rfl
    · cases h
  | insertMany collection ids records =>
    simp only [change, Tree.insertMany] at h ⊢
    split at h
    · cases h
    · rename_i hlength; rw [if_neg hlength]; exact .inl rfl
  | update collection id fields =>
    simp only [change, Tree.update] at h ⊢
    split at h
    · exact .inl rfl
    · cases h
  | delete collection id =>
    have hid : db.tree.get? collection id = none := Option.isNone_iff_eq_none.mp (Option.isSome_eq_false_iff.mp h)
    exact .inr ⟨collection, id, rfl, hid, rfl⟩
  | read collection id => exact .inl rfl
  | readAll collection => exact .inl rfl
  | readWhere collection expression => exact .inl rfl
  | collections => exact .inl rfl

/-- Without an empty collection in the tree, what is not kept has not changed anything. -/
theorem tree_of_not_kept (hfilled : db.tree.Filled) (h : (op.change db).keep = false) :
    (op.change db).tree = db.tree := by
  rcases tree_of_keep_eq_false h with htree | ⟨collection, id, -, hid, htree⟩
  · exact htree
  · rw [htree]; exact hfilled.remove_of_get?_eq_none hid

theorem get?_of_not_kept (h : (op.change db).keep = false) (collection id : String) :
    (op.change db).tree.get? collection id = db.tree.get? collection id := by
  rcases tree_of_keep_eq_false h with htree | ⟨collection', id', -, hid, htree⟩
  · rw [htree]
  · rw [htree, Tree.get?_remove]
    split
    · rename_i hkey; rw [hkey.1, hkey.2, hid]
    · rfl

end Operation

/-! ## The file of a database -/

namespace Database

theorem reload_of_read {db : Database} {disk : Disk} {path text : String} {indent : Nat}
    (hmedium : db.medium = .file path indent) (present : disk.has path = true) (readable : disk.read path = .ok text) :
    db.reload disk = ⟨.ok (), { db with tree := .ofText text }, disk⟩ := by
  simp only [reload, hmedium, present, readable, if_true]

/-- The file, if there is one, holds the text of the tree. -/
def Written (db : Database) (disk : Disk) : Prop :=
  match db.medium with
  | .memory => True
  | .file path indent => disk.has path = true ∧ disk.read path = .ok (db.tree.encode indent)

theorem written_flush {db : Database} {disk : Disk} (h : (db.flush disk).Stored) :
    db.Written (db.flush disk).disk := by
  unfold Written
  split
  · trivial
  · rename_i path indent hmedium
    rw [flush_file hmedium] at h ⊢
    refine Disk.read_of_save ?_
    cases hsave : (disk.save path (db.tree.encode indent)).1 with
    | ok u => rfl
    | error cause => exact absurd (by rw [hsave]; rfl) (h path cause)

theorem written_of_kept {α : Type} {db : Database} {disk : Disk} {change : Change α} {a : α}
    (ha : change.answer = .ok a) (hk : change.keep = true) (hstored : (db.commit disk change).Stored) :
    (db.commit disk change).database.Written (db.commit disk change).disk := by
  have hcommit : db.commit disk change =
      ⟨(flush { db with tree := change.tree } disk).answer.map fun _ => a,
        (flush { db with tree := change.tree } disk).database,
        (flush { db with tree := change.tree } disk).disk⟩ := by
    simp [commit, ha, hk]
  rw [hcommit] at hstored ⊢
  dsimp only
  rw [flush_database]
  refine written_flush fun path cause hanswer => hstored path cause ?_
  dsimp only
  rw [hanswer]; rfl

theorem written_commit {α : Type} {db : Database} {disk : Disk} {change : Change α} (hwritten : db.Written disk)
    (hrefused : ∀ refusal, change.answer = .error refusal → change.keep = false)
    (hsame : change.keep = false → change.tree = db.tree) (hstored : (db.commit disk change).Stored) :
    (db.commit disk change).database.Written (db.commit disk change).disk := by
  cases hk : change.keep with
  | false =>
    -- nothing was written, but nothing has changed either
    rw [commit_database, commit_disk_of_not_keep hk, hsame hk]; exact hwritten
  | true =>
    cases ha : change.answer with
    | error refusal => rw [hrefused refusal ha] at hk; cases hk
    | ok a => exact written_of_kept ha hk hstored

end Database

/-! ## Runs -/

def Database.answers (db : Database) (disk : Disk) : List Operation → List (Except StoreError Answer)
  | [] => []
  | op :: ops => (op.perform db disk).answer ::
      answers (op.perform db disk).database (op.perform db disk).disk ops

/-- The operations are carried out in order, and none of them fails to write the file. -/
inductive Served : Database → Disk → List Operation → Database → Disk → Prop where
  | nil (db : Database) (disk : Disk) : Served db disk [] db disk
  | cons {db db' : Database} {disk disk' : Disk} {op : Operation} {ops : List Operation} :
      (op.perform db disk).Stored →
      Served (op.perform db disk).database (op.perform db disk).disk ops db' disk' →
      Served db disk (op :: ops) db' disk'

theorem exists_served {db : Database} {disk : Disk} {ops : List Operation}
    (h : ∀ answer ∈ db.answers disk ops, ∀ path cause, answer ≠ .error (.inaccessible path cause)) :
    ∃ db' disk', Served db disk ops db' disk' := by
  induction ops generalizing db disk with
  | nil => exact ⟨db, disk, .nil db disk⟩
  | cons op ops ih =>
    obtain ⟨hstored, hrest⟩ := List.forall_mem_cons.mp h
    obtain ⟨db', disk', hserved⟩ := ih hrest
    exact ⟨db', disk', .cons hstored hserved⟩

theorem exists_served_memory {db : Database} (hmemory : db.medium = .memory) (disk : Disk) (ops : List Operation) :
    ∃ db', Served db disk ops db' disk := by
  induction ops generalizing db with
  | nil => exact ⟨db, .nil db disk⟩
  | cons op ops ih =>
    have hperform := Database.perform_memory hmemory disk op
    obtain ⟨db', hserved⟩ := @ih { db with tree := (op.change db).tree } hmemory
    refine ⟨db', .cons (fun path cause h => ?_) (by rw [hperform]; exact hserved)⟩
    rw [hperform] at h
    dsimp only at h
    cases hanswer : (op.change db).answer <;> rw [hanswer] at h <;> cases h

namespace Served

variable {db db' : Database} {disk disk' : Disk} {ops : List Operation}

theorem kept {p : Tree → Prop} {q : Record → Prop} (hk : Tree.Kept p q) (h : Served db disk ops db' disk')
    (hp : p db.tree) (hq : ∀ op ∈ ops, ∀ record ∈ op.records, q record) : p db'.tree := by
  induction h with
  | nil => exact hp
  | @cons db db' disk disk' op ops hstored hrest ih =>
    obtain ⟨hop, hops⟩ := List.forall_mem_cons.mp hq
    refine ih ?_ hops
    rw [op.perform_database]
    exact hk.change hp hop

theorem medium_eq (h : Served db disk ops db' disk') : db'.medium = db.medium := by
  induction h with
  | nil => rfl
  | @cons db db' disk disk' op ops hstored hrest ih =>
    rw [ih, op.perform_database]

/-- After every operation the file holds the text of the tree. -/
theorem written (h : Served db disk ops db' disk') (hfilled : db.tree.Filled) (hwritten : db.Written disk) :
    db'.Written disk' := by
  induction h with
  | nil => exact hwritten
  | @cons db db' disk disk' op ops hstored hrest ih =>
    rw [op.perform_eq_commit] at hstored ih
    refine ih ?_ ?_
    · rw [Database.commit_database]
      exact Tree.kept_filled.change hfilled fun _ _ => trivial
    · exact Database.written_commit hwritten (fun _ => Operation.keep_of_refused)
        (Operation.tree_of_not_kept hfilled) hstored

end Served

end DocStore
