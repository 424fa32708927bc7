import DocStore.Record
import DocStore.Tree
import DocStore.Value.Output

/-!
# Trees as text

A tree is kept as one JSON object of collections, each an object of records by id. A text that is anything else is
no tree.
-/

namespace DocStore.Tree

def toJson (t : Tree) : Json :=
  .object <| t.collections.entries.map fun (name, records) =>
    (name, .object (records.entries.map fun (id, record) => (id, record.toJson)))

def write {α : Type} (out : Output α) (t : Tree) : α :=
  out.object <| t.collections.entries.map fun (name, records) =>
    (name, out.object (records.entries.map fun (id, record) => (id, (Value.object record).write out)))

def encode (indent : Nat) (t : Tree) : String :=
  t.toJson.indented indent

/-- The tree of some members; of several collections or records of one name the last one counts. -/
def ofMembers (members : List (String × List (String × Record))) : Tree :=
  ⟨Keyed.ofList (members.map fun (name, records) => (name, Keyed.ofList records))⟩

def reader (depth : Nat) : Json.Reader Tree := fun s =>
  (Json.readObjectOf (Json.readObjectOf Record.reader) depth s).map (·.map ofMembers)

def parse (text : String) : Except Json.ReadError Tree :=
  Json.readAll (reader Json.maxNesting) text

/-- The tree of a text, empty if the text is none. -/
def ofText (text : String) : Tree :=
  (parse text).toOption.getD ∅

end DocStore.Tree
