import DocStore.Value.Basic

/-!
# Paths

A path names a field by its name and, inside objects, by the names on the way to it, with dots between them.
-/

namespace DocStore.Query

def follow (fields : Entries Value) : List String → Option Value
  | [] => none
  | [name] => fields.get? name
  | name :: names =>
    match fields.get? name with
    | some (.object inner) => follow inner names
    | _ => none

def names (path : String) : List String :=
  (path.toList.splitOn '.').map String.ofList

/-- The value at a path; a missing name, or one inside something other than an object, gives none. -/
def resolve (fields : Entries Value) (path : String) : Option Value :=
  follow fields (names path)

end DocStore.Query
