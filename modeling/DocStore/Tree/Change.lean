import DocStore.Tree

/-!
# Changes

What an operation makes of a tree: the tree after it, its answer or why it was refused, and whether the tree is now to
be kept. Ids of new records are given with the operation.
-/

namespace DocStore

inductive Refusal where
  | duplicateId (collection id : String)
  | lengthMismatch (ids records : Nat)
deriving DecidableEq, Repr

structure Change (α : Type) where
  tree : Tree
  answer : Except Refusal α
  keep : Bool

namespace Tree

def create (t : Tree) (collection id : String) (record : Record) : Change String :=
  ⟨t.put collection id record, .ok id, true⟩

def putAll (t : Tree) (collection : String) (entries : List (String × Record)) : Tree :=
  entries.foldl (fun t entry => t.put collection entry.1 entry.2) t

def createMany (t : Tree) (collection : String) (entries : List (String × Record)) : Change (List String) :=
  ⟨t.putAll collection entries, .ok (entries.map (·.1)), true⟩

def insert (t : Tree) (collection id : String) (record : Record) : Change Unit :=
  if (t.get? collection id).isSome then ⟨t, .error (.duplicateId collection id), false⟩
  else ⟨t.put collection id record, .ok (), true⟩

def insertEach (t : Tree) (collection : String) : List (String × Record) → Tree × List Bool
  | [] => (t, [])
  | (id, record) :: rest =>
    if (t.get? collection id).isSome then
      let (t, flags) := t.insertEach collection rest
      (t, false :: flags)
    else
      let (t, flags) := (t.put collection id record).insertEach collection rest
      (t, true :: flags)

/-- Adds records under chosen ids, passing over those whose id is taken. -/
def insertMany (t : Tree) (collection : String) (ids : List String) (records : List Record) : Change (List Bool) :=
  if ids.length = records.length then
    let (t, flags) := t.insertEach collection (ids.zip records)
    ⟨t, .ok flags, true⟩
  else ⟨t, .error (.lengthMismatch ids.length records.length), false⟩

def update (t : Tree) (collection id : String) (fields : Record) : Change Bool :=
  match t.get? collection id with
  | none => ⟨t, .ok false, false⟩
  | some record => ⟨t.put collection id (Entries.merge record fields), .ok true, true⟩

def delete (t : Tree) (collection id : String) : Change Bool :=
  let found := (t.get? collection id).isSome
  ⟨t.remove collection id, .ok found, found⟩

end Tree

end DocStore
