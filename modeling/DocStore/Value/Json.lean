import DocStore.Json.Reader
import DocStore.Time.Reading
import DocStore.Time.Writing
import DocStore.Value.Basic

/-!
# Values and JSON

A value is taken from a JSON tree either directly (`Value.ofJson`) or by trying the kinds of value in their order
(`Value.decode?`). A whole number beyond 64 bits with sign becomes a double, and a string stays a string even if
it reads as a date: timestamps only come from literals. On the way back a timestamp is its text, and a double
without digits is null.
-/

namespace DocStore.Value

/-- A whole number without sign, as an integer if it fits. -/
def ofNat (n : UInt64) : Value :=
  if n.toNat < 0x8000000000000000 then int (Int64.ofInt n.toNat) else float n.toFloat

mutual

def ofJson : Json → Value
  | .null => null
  | .bool b => bool b
  | .nat n => ofNat n
  | .neg n => int n
  | .float x => float x
  | .str s => str s
  | .array items => array (ofItems items)
  | .object members => object (Entries.ofList (ofMembers members))

def ofItems : List Json → List Value
  | [] => []
  | j :: rest => ofJson j :: ofItems rest

def ofMembers : List (String × Json) → List (String × Value)
  | [] => []
  | (name, j) :: rest => (name, ofJson j) :: ofMembers rest

end

/-! ## Kind by kind -/

def asNull? : Json → Option Value
  | .null => some null
  | _ => none

def asBool? : Json → Option Value
  | .bool b => some (bool b)
  | _ => none

def asInt? : Json → Option Value
  | .nat n => if n.toNat < 0x8000000000000000 then some (int (Int64.ofInt n.toNat)) else none
  | .neg n => some (int n)
  | _ => none

def asFloat? : Json → Option Value
  | .nat n => some (float n.toFloat)
  | .neg n => some (float (nearestDouble n))
  | .float x => some (float x)
  | _ => none

def asStr? : Json → Option Value
  | .str s => some (str s)
  | _ => none

def asTime? : Json → Option Value
  | .str s => (Time.Timestamp.ofString? s).map time
  | _ => none

def asScalar? (j : Json) : Option Value :=
  [asNull?, asBool?, asInt?, asFloat?, asStr?, asTime?].findSome? (· j)

mutual

/-- The value of the first kind that accepts the tree. -/
def decode? (j : Json) : Option Value :=
  (asScalar? j).or <| match j with
    | .array items => (decodeItems? items).map array
    | .object members => (decodeMembers? members).map (object ∘ Entries.ofList)
    | _ => none

def decodeItems? : List Json → Option (List Value)
  | [] => some []
  | j :: rest => do
    let v ← decode? j
    let vs ← decodeItems? rest
    return v :: vs

def decodeMembers? : List (String × Json) → Option (List (String × Value))
  | [] => some []
  | (name, j) :: rest => do
    let v ← decode? j
    let vs ← decodeMembers? rest
    return (name, v) :: vs

end

/-! ## Back to JSON -/

def ofInt64 (n : Int64) : Json :=
  if n < 0 then .neg n else .nat n.toUInt64

mutual

def toJson : Value → Json
  | null => .null
  | bool b => .bool b
  | int n => ofInt64 n
  | float x => if x.isFinite then .float x else .null
  | str s => .str s
  | time t => .str (String.ofList t.render)
  | array items => .array (itemsToJson items)
  | object fields => .object (fieldsToJson fields)

def itemsToJson : List Value → List Json
  | [] => []
  | v :: rest => toJson v :: itemsToJson rest

def fieldsToJson : List (String × Value) → List (String × Json)
  | [] => []
  | (name, v) :: rest => (name, toJson v) :: fieldsToJson rest

end

end DocStore.Value
