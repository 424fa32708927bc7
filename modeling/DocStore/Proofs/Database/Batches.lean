import DocStore.Proofs.Database.WriteThrough
import DocStore.Proofs.Tree.Contents

/-!
# Batches and single inserts

A batch looks at its entries in turn, each in the tree that the ones before it have left, and so do single inserts. The
batch flags what the single inserts refuse, and both end in the same database (`insertMany_eq_inserts`): the first entry
under a new id is put in, and what is stored stays.
-/

namespace DocStore

namespace Operation

def inserts (collection : String) (ids : List String) (records : List Record) : List Operation :=
  List.zipWith (insert collection) ids records

def insertAnswer (collection id : String) (inserted : Bool) : Except StoreError Answer :=
  if inserted then .ok .done else .error (.refused (.duplicateId collection id))

variable {db : Database} {collection id : String} {record : Record}

theorem change_insert_taken (h : (db.tree.get? collection id).isSome) :
    (insert collection id record).change db = ⟨db.tree, .error (.duplicateId collection id), false⟩ := by
  rw [change, Tree.insert, if_pos h]; rfl

theorem change_insert_free (h : ¬ (db.tree.get? collection id).isSome) :
    (insert collection id record).change db = ⟨db.tree.put collection id record, .ok .done, true⟩ := by
  rw [change, Tree.insert, if_neg h]; rfl

end Operation

/-! ## One entry after another -/

/-- Single inserts leave the tree of the batch and answer by its flags. -/
theorem Served.inserts {db db' : Database} {disk disk' : Disk} {collection : String} {ids : List String}
    {records : List Record} (h : Served db disk (Operation.inserts collection ids records) db' disk') :
    db' = { db with tree := (db.tree.insertEach collection (ids.zip records)).1 } ∧
      db.answers disk (Operation.inserts collection ids records) =
        List.zipWith (Operation.insertAnswer collection) ids (db.tree.insertEach collection (ids.zip records)).2 := by
  induction ids generalizing db disk records with
  | nil => cases h; exact ⟨rfl, rfl⟩
  | cons id ids ih =>
    cases records with
    | nil => cases h; exact ⟨rfl, rfl⟩
    | cons record records =>
      cases h with
      | cons hstored hrest =>
        have hanswer := Operation.answer_of_stored hstored
        have hdatabase := (Operation.insert collection id record).perform_database db disk
        obtain ⟨hend, hanswers⟩ := ih hrest
        rw [hdatabase] at hend hanswers
        rw [Operation.inserts, List.zipWith_cons_cons, Database.answers, hanswer, hdatabase, ← Operation.inserts,
          hanswers, hend, List.zip_cons_cons, Tree.insertEach]
        by_cases htaken : (db.tree.get? collection id).isSome
        · rw [if_pos htaken, Operation.change_insert_taken htaken]
          exact ⟨rfl, rfl⟩
        · rw [if_neg htaken, Operation.change_insert_free htaken]
          exact ⟨rfl, rfl⟩

namespace Database

/-- A batch ends in the database that single inserts of its entries end in, as long as the file can be written, and flags
the entries whose inserts succeed. These are the first ones under ids that were free: their records are put in, no record
that was there is replaced, and if there are none nothing changes, so that no collection appears either. -/
theorem insertMany_eq_inserts {db db' : Database} {disk disk' : Disk} {collection : String} {ids : List String}
    {records : List Record} (length_eq : ids.length = records.length)
    (stored : ((Operation.insertMany collection ids records).perform db disk).Stored)
    (served : Served db disk (Operation.inserts collection ids records) db' disk') :
    ((Operation.insertMany collection ids records).perform db disk).database = db' ∧
      ∃ flags, ((Operation.insertMany collection ids records).perform db disk).answer = .ok (.flags flags) ∧
        flags.length = ids.length ∧
        (∀ i id, ids[i]? = some id →
          (flags[i]? = some true ↔
            (db.answers disk (Operation.inserts collection ids records))[i]? = some (.ok .done)) ∧
          (flags[i]? = some false ↔ (db.answers disk (Operation.inserts collection ids records))[i]? =
            some (.error (.refused (.duplicateId collection id)))) ∧
          (flags[i]? = some false ↔ db.read collection id ≠ none ∨ id ∈ ids.take i) ∧
          (flags[i]? = some true → db'.read collection id = records[i]?)) ∧
        (∀ name id record, db.read name id = some record → db'.read name id = some record) ∧
        (true ∉ flags → db' = db) := by
  have hchange : (Operation.insertMany collection ids records).change db =
      ⟨(db.tree.insertEach collection (ids.zip records)).1,
        .ok (.flags (db.tree.insertEach collection (ids.zip records)).2), true⟩ := by
    rw [Operation.change, Tree.insertMany, if_pos length_eq]; rfl
  have hlength := Tree.length_insertEach_zip db.tree collection length_eq
  obtain ⟨rfl, hanswers⟩ := served.inserts
  refine ⟨?_, _, ?_, hlength, ?_, ?_, ?_⟩
  · rw [Operation.perform_database, hchange]
  · rw [Operation.answer_of_stored stored, hchange]; rfl
  · intro i id hid
    have hi : i < (db.tree.insertEach collection (ids.zip records)).2.length := by
      rw [hlength]; exact (List.getElem?_eq_some_iff.mp hid).1
    obtain ⟨flag, hflag⟩ : ∃ flag, (db.tree.insertEach collection (ids.zip records)).2[i]? = some flag :=
      ⟨_, List.getElem?_eq_getElem hi⟩
    have hanswer : (db.answers disk (Operation.inserts collection ids records))[i]? =
        some (Operation.insertAnswer collection id flag) := by
      rw [hanswers, List.getElem?_zipWith, hid, hflag]
    refine ⟨?_, ?_, Tree.insertEach_zip_eq_false_iff db.tree collection length_eq hid,
      Tree.get?_insertEach_zip db.tree collection length_eq hid⟩
    · rw [hanswer, hflag]; cases flag <;> simp [Operation.insertAnswer]
    · rw [hanswer, hflag]; cases flag <;> simp [Operation.insertAnswer]
  · intro name id record hr
    have hold : db.tree.get? name id = some record := hr
    rw [read, Tree.get?_insertEach]
    split
    · rename_i hname
      rw [← hname, hold]; rfl
    · exact hold
  · intro hnone
    rw [Tree.insertEach_eq_self db.tree collection hnone]

def batchIds : List String :=
  ["x", "y", "y"]

def batchRecords : List Record :=
  [[("n", .int 1)], [("n", .int 2)], [("n", .int 3)]]

/-- The first id is taken, and the last one has come before. -/
theorem insertMany_eq_inserts_repeated :
    batchIds.length = batchRecords.length ∧
      ((Operation.insertMany "c" batchIds batchRecords).perform afterInsert.database afterInsert.disk).answer =
        .ok (.flags [false, true, false]) ∧
      ∃ db' disk', Served afterInsert.database afterInsert.disk (Operation.inserts "c" batchIds batchRecords) db' disk' ∧
        ((Operation.insertMany "c" batchIds batchRecords).perform afterInsert.database afterInsert.disk).database = db' ∧
        db'.read "c" "x" = some [] ∧ db'.read "c" "y" = some [("n", .int 2)] := by
  have hanswer : ((Operation.insertMany "c" batchIds batchRecords).perform afterInsert.database
      afterInsert.disk).answer = .ok (.flags [false, true, false]) := rfl
  have hanswers : afterInsert.database.answers afterInsert.disk
      (Operation.inserts "c" batchIds batchRecords) = [.error (.refused (.duplicateId "c" "x")), .ok .done,
        .error (.refused (.duplicateId "c" "y"))] := rfl
  obtain ⟨db', disk', hserved⟩ : ∃ db' disk', Served afterInsert.database afterInsert.disk
      (Operation.inserts "c" batchIds batchRecords) db' disk' := exists_served (by rw [hanswers]; simp)
  obtain ⟨hdatabase, flags, hflags, -, hentries, hkept, -⟩ :=
    insertMany_eq_inserts (show batchIds.length = batchRecords.length by decide)
      (fun path cause h => by rw [hanswer] at h; cases h) hserved
  rw [hanswer] at hflags
  cases hflags
  refine ⟨by decide, hanswer, db', disk', hserved, hdatabase, ?_, ?_⟩
  · exact hkept "c" "x" [] rfl
  · exact (hentries 1 "y" rfl).2.2.2 rfl

end Database

end DocStore
