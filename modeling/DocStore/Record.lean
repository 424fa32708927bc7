import DocStore.Value.Json

/-!
# Records as text

A record is read from a JSON object. Of several members of one name the last one counts.
-/

namespace DocStore

namespace Record

def ofMembers (members : List (String × Json)) : Record :=
  Entries.ofList (members.map fun (name, j) => (name, Value.ofJson j))

def reader (depth : Nat) : Json.Reader Record := fun s =>
  (Json.readObjectOf Json.readTree depth s).map (·.map ofMembers)

def parse (text : String) : Except Json.ReadError Record :=
  Json.readAll (reader Json.maxNesting) text

def parseMany (text : String) : Except Json.ReadError (List Record) :=
  Json.readAll (Json.readArrayOf reader Json.maxNesting) text

def toJson (record : Record) : Json :=
  (Value.object record).toJson

end Record

def Time.Timestamp.parseJson (text : String) : Except Json.ReadError Time.Timestamp :=
  let cs := text.toList
  match Json.readText cs with
  | .error fault => .error (fault.locate cs)
  | .ok t =>
    match Time.Timestamp.ofString? t.value with
    | none => .error (.ofMessage ("invalid ISO-8601 timestamp: " ++ t.value))
    | some time => Json.readAll (fun s => (Json.readText s).map (·.map fun _ => time)) text

end DocStore
