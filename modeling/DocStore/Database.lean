import DocStore.Disk
import DocStore.Document
import DocStore.Query
import DocStore.Tree.Change
import DocStore.Tree.Text

/-!
# Databases

A database is a tree in memory, the medium that it is kept on, and the limit on nesting for its queries. After each
change the whole tree is written; what a change did in memory stays even if that fails.
-/

namespace DocStore

inductive Medium where
  | memory
  | file (path : String) (indent : Nat)

structure Database where
  tree : Tree
  medium : Medium
  maxDepth : Nat

inductive StoreError where
  | refused (refusal : Refusal)
  | inaccessible (path : String) (cause : Disk.Cause)
deriving DecidableEq, Repr

def Refusal.message : Refusal → String
  | duplicateId collection id => "Record '" ++ id ++ "' already exists in collection '" ++ collection ++ "'"
  | lengthMismatch ids records =>
    "Record ids and records must have the same number of elements (got " ++ toString ids ++ " and " ++
      toString records ++ ")"

def StoreError.message : StoreError → String
  | refused refusal => refusal.message
  | inaccessible path cause => "Failed to access database file '" ++ path ++ "': " ++ cause.message

structure Outcome (α : Type) where
  answer : Except StoreError α
  database : Database
  disk : Disk

namespace Database

def defaultIndent : Nat := 4

def flush (db : Database) (disk : Disk) : Outcome Unit :=
  match db.medium with
  | .memory => ⟨.ok (), db, disk⟩
  | .file path indent =>
    let (saved, disk) := disk.save path (db.tree.encode indent)
    ⟨saved.mapError (.inaccessible path), db, disk⟩

/-- Takes the tree from its medium again. A missing file is made, and one that holds no tree counts as empty. -/
def reload (db : Database) (disk : Disk) : Outcome Unit :=
  match db.medium with
  | .memory => ⟨.ok (), db, disk⟩
  | .file path _ =>
    if disk.has path then
      match disk.read path with
      | .error cause => ⟨.error (.inaccessible path cause), db, disk⟩
      | .ok text => ⟨.ok (), { db with tree := .ofText text }, disk⟩
    else flush { db with tree := ∅ } disk

def openOn (medium : Medium) (maxDepth : Nat) (disk : Disk) : Outcome Unit :=
  reload ⟨∅, medium, maxDepth⟩ disk

def commit {α : Type} (db : Database) (disk : Disk) (change : Change α) : Outcome α :=
  let db := { db with tree := change.tree }
  match change.answer with
  | .error refusal => ⟨.error (.refused refusal), db, disk⟩
  | .ok answer =>
    if change.keep then
      let flushed := db.flush disk
      ⟨flushed.answer.map fun _ => answer, flushed.database, flushed.disk⟩
    else ⟨.ok answer, db, disk⟩

def read (db : Database) (collection id : String) : Option Record :=
  db.tree.get? collection id

def documents (records : List (String × Record)) : List Document :=
  records.map fun (id, record) => ⟨id, record⟩

def readAll (db : Database) (collection : String) : List Document :=
  documents (db.tree.records collection)

def readWhere (db : Database) (collection expression : String) : List Document :=
  documents ((Query.ofExpression db.maxDepth expression).filter (db.tree.records collection))

def collections (db : Database) : List String :=
  db.tree.names

end Database

end DocStore
