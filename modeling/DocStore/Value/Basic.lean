import DocStore.Keyed
import DocStore.Time.Timestamp

/-!
# Values

What a field of a record holds, and what a literal of a query denotes. A record is its fields in key order.
Two values are equal if they are of one kind and equal there: a whole number never equals a double, and a double
without digits equals nothing.
-/

namespace DocStore

inductive Value where
  | null
  | bool (b : Bool)
  | int (n : Int64)
  | float (x : Float)
  | str (s : String)
  | time (t : Time.Timestamp)
  | array (items : List Value)
  | object (fields : List (String × Value))
deriving Inhabited

abbrev Record := Entries Value

namespace Value

def typeName : Value → String
  | null => "null"
  | bool _ => "bool"
  | int _ => "int"
  | float _ => "float"
  | str _ => "string"
  | time _ => "timestamp"
  | array _ => "array"
  | object _ => "object"

mutual

def same : Value → Value → Bool
  | null, null => true
  | bool a, bool b => a == b
  | int a, int b => a == b
  | float a, float b => a == b
  | str a, str b => a == b
  | time a, time b => a.same b
  | array as, array bs => sameItems as bs
  | object as, object bs => sameFields as bs
  | _, _ => false

def sameItems : List Value → List Value → Bool
  | [], [] => true
  | a :: as, b :: bs => same a b && sameItems as bs
  | _, _ => false

def sameFields : List (String × Value) → List (String × Value) → Bool
  | [], [] => true
  | (k, a) :: as, (l, b) :: bs => k == l && same a b && sameFields as bs
  | _, _ => false

end

instance : BEq Value := ⟨same⟩

def nearestDouble (n : Int64) : Float :=
  let size := n.toInt.natAbs.toUInt64.toFloat
  if n.toInt < 0 then -size else size

def toFloat? : Value → Option Float
  | int n => some (nearestDouble n)
  | float x => some x
  | _ => none

def toString? : Value → Option String
  | str s => some s
  | _ => none

def fields? : Value → Option (Entries Value)
  | object fields => some fields
  | _ => none

end Value

end DocStore
