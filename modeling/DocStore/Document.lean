import DocStore.Record

/-!
# Documents

A document is a record as it is handed out, together with its id.
-/

namespace DocStore

structure Document where
  id : String
  fields : Record

namespace Document

/-- The fields with the id among them; a stored field of that name stays. -/
def toRecord (d : Document) : Record :=
  Entries.merge [("id", .str d.id)] d.fields

def toJson (d : Document) : Json :=
  d.toRecord.toJson

end Document

end DocStore
