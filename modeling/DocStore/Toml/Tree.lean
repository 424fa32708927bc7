/-!
# TOML trees

A document is a table of named values. How a table came about decides what may still be added to it: a header opens a
table once, dotted names add to tables that no header has opened, and an inline table is complete where it stands.
-/

namespace DocStore

/-- How a table came about: by a header, on the way to a header, by a dotted name, or inline. -/
inductive Toml.Origin where
  | header
  | implied
  | dotted
  | inline
deriving DecidableEq, Repr

inductive Toml where
  | str (s : String)
  /-- A whole number, if its digits denote one. -/
  | int (n : Option Int)
  /-- A double, if there is one that is not infinite for want of range. -/
  | float (x : Option Float)
  | bool (b : Bool)
  | time (text : String)
  | array (items : List Toml)
  | table (origin : Toml.Origin) (members : List (String × Toml))
  /-- Tables under repeated headers of one name; the last one is still open. -/
  | tables (earlier : List Toml) (last : List (String × Toml))

namespace Toml

abbrev Members := List (String × Toml)

def put (name : String) (value : Toml) (members : Members) : Members :=
  if members.any (·.1 = name) then members.map fun e => if e.1 = name then (name, value) else e
  else members ++ [(name, value)]

/-- Changes the table that a path leads to and makes the tables on the way. Dotted names do not lead into a table that a
header has opened. -/
def changeAt (dotted : Bool) (change : Origin → Members → Option (Origin × Members)) (origin : Origin) :
    List String → Members → Option (Origin × Members)
  | [], members => change origin members
  | name :: path, members =>
    match members.lookup name with
    | none => do
      let (made, inner) ← changeAt dotted change (if dotted then .dotted else .implied) path []
      return (origin, put name (.table made inner) members)
    | some (.table o inner) =>
      if o = .inline ∨ (dotted ∧ o = .header) then none
      else do
        let (o, inner) ← changeAt dotted change o path inner
        return (origin, put name (.table o inner) members)
    | some (.tables earlier last) => do
      let (_, last) ← changeAt dotted change .header path last
      return (origin, put name (.tables earlier last) members)
    | some _ => none

/-- Adds a value under a dotted name to an open table. From then on only dotted names add to the table that holds it. -/
def add (names : List String) (value : Toml) (members : Members) : Option Members := do
  let name ← names.getLast?
  let path := names.dropLast
  let change (origin : Origin) (inner : Members) : Option (Origin × Members) :=
    if (path ≠ [] ∧ origin = .header) ∨ (inner.lookup name).isSome then none
    else some (if path = [] then origin else .dotted, put name value inner)
  return (← changeAt true change .header path members).2

def openTable (names : List String) (members : Members) : Option Members := do
  let name ← names.getLast?
  let change (origin : Origin) (inner : Members) : Option (Origin × Members) :=
    match inner.lookup name with
    | none => some (origin, put name (.table .header []) inner)
    | some (.table .implied held) => some (origin, put name (.table .header held) inner)
    | some _ => none
  return (← changeAt false change .header names.dropLast members).2

def openItem (names : List String) (members : Members) : Option Members := do
  let name ← names.getLast?
  let change (origin : Origin) (inner : Members) : Option (Origin × Members) :=
    match inner.lookup name with
    | none => some (origin, put name (.tables [] []) inner)
    | some (.tables earlier last) => some (origin, put name (.tables (earlier ++ [.table .header last]) []) inner)
    | some _ => none
  return (← changeAt false change .header names.dropLast members).2

def addUnder (header names : List String) (value : Toml) (members : Members) : Option Members := do
  let change (origin : Origin) (inner : Members) : Option (Origin × Members) := do
    return (origin, ← add names value inner)
  return (← changeAt false change .header header members).2

end Toml

end DocStore
