/-!
# JSON trees

What a JSON text says. Whole numbers keep their exact value where 64 bits hold them; the members of an object
stand in the order of the text, repeated names included.
-/

namespace DocStore

inductive Json where
  | null
  | bool (b : Bool)
  | nat (n : UInt64)
  /-- A number below zero. -/
  | neg (n : Int64)
  | float (x : Float)
  | str (s : String)
  | array (items : List Json)
  | object (members : List (String × Json))
deriving Inhabited

end DocStore
