import DocStore.Document
import DocStore.Report.Table
import DocStore.Text.Style
import DocStore.Value.Text

/-!
# Reports for people

Documents as a table with one column for each field, the id first, and one record as a table with one row for each
field.
-/

namespace DocStore.Report

def cell (value : Option Value) : String :=
  (value.map Value.text).getD ""

def count (n : Nat) : String :=
  "(" ++ toString n ++ " record" ++ (if n = 1 then "" else "s") ++ ")"

def fieldNames (documents : List Document) : List String :=
  (Entries.ofList (documents.flatMap fun d => d.fields.map fun (name, _) => (name, ()))).keys.filter (· ≠ "id")

def documentTable (documents : List Document) : Table :=
  let header := "id" :: fieldNames documents
  ⟨header, documents.map fun d => header.map fun name => cell (d.toRecord.get? name)⟩

def documents (color : Bool) (collection : String) (documents : List Document) : String :=
  Text.styled color .heading collection ++ " " ++ Text.styled color .faint (count documents.length) ++ "\n" ++
    (if documents.isEmpty then "No matching records found." else (documentTable documents).text) ++ "\n"

def record (color : Bool) (id : String) (fields : Record) : String :=
  let rows := fields.map fun (name, value) => [name, cell (some value), value.typeName]
  Text.styled color .heading id ++ "\n" ++ (Table.mk ["Field", "Value", "Type"] rows).text ++ "\n"

end DocStore.Report
