import DocStore.Database
import DocStore.Toml.Reader

/-!
# Settings

Where a database is kept, how its file is indented and how deeply queries may nest. They are read from a TOML document;
what it does not say keeps its default, and what is not known is passed over. A section may also be an array of its
settings in their order.
-/

namespace DocStore

structure Settings where
  path : String := "data/database.json"
  indent : Nat := Database.defaultIndent
  maxDepth : Nat := Query.defaultMaxDepth
deriving DecidableEq, Repr

inductive SettingsError where
  | unreadable (path : String) (cause : Disk.Cause)
  | malformed (path : String)

namespace Settings

mutual

/-- Whether all numbers of a value that is passed over can be represented. -/
def isSound : Toml → Bool
  | .int n => n.any fun n => -(Nat.pow 2 127 : Int) ≤ n && n < Nat.pow 2 128
  | .float x => x.isSome
  | .array items => areSound items
  | .table _ members => memberSound members
  | .tables earlier last => areSound earlier && memberSound last
  | _ => true

def areSound : List Toml → Bool
  | [] => true
  | v :: rest => isSound v && areSound rest

def memberSound : List (String × Toml) → Bool
  | [] => true
  | (_, v) :: rest => isSound v && memberSound rest

end

def text? : Toml → Option String
  | .str s => some s
  | _ => none

def count? : Toml → Option Nat
  | .int (some n) => if 0 ≤ n ∧ n < UInt64.size then some n.toNat else none
  | _ => none

/-- One setting: its name, and how a value changes the settings. -/
abbrev Field := String × (Settings → Toml → Option Settings)

def ofMembers (fields : List Field) (settings : Settings) (members : Toml.Members) : Option Settings :=
  members.foldlM (fun settings (name, value) =>
    match fields.lookup name with
    | some set => set settings value
    | none => if isSound value then some settings else none) settings

def ofItems : List Field → Settings → List Toml → Option Settings
  | [], settings, _ => some settings
  | _, settings, [] => some settings
  | (_, set) :: fields, settings, value :: rest => do ofItems fields (← set settings value) rest

/-- A section as a table or as an array; a date says nothing. -/
def ofSection (fields : List Field) (settings : Settings) : Toml → Option Settings
  | .table _ members => ofMembers fields settings members
  | .array items => ofItems fields settings items
  | .tables earlier last => ofItems fields settings (earlier ++ [.table .header last])
  | .time _ => some settings
  | _ => none

def storageFields : List Field := [
  ("path", fun s v => (text? v).map fun path => { s with path }),
  ("indent", fun s v => (count? v).map fun indent => { s with indent })]

def queryFields : List Field := [
  ("max_depth", fun s v => (count? v).map fun maxDepth => { s with maxDepth })]

def sections : List Field := [
  ("storage", ofSection storageFields),
  ("query", ofSection queryFields)]

def parse? (text : String) : Option Settings := do
  ofMembers sections {} (← Toml.parse? text)

def load (path : Option String) (disk : Disk) : Except SettingsError Settings :=
  match path with
  | none => .ok {}
  | some path =>
    match disk.read path with
    | .error cause => .error (.unreadable path cause)
    | .ok text => (parse? text).elim (.error (.malformed path)) .ok

end Settings

def SettingsError.cause : SettingsError → String
  | unreadable _ cause => cause.message
  | malformed _ => "TOML parse error"

def SettingsError.message (error : SettingsError) : String :=
  match error with
  | unreadable path _ => "Failed to read config file '" ++ path ++ "': " ++ error.cause
  | malformed path => "Failed to parse config file '" ++ path ++ "': " ++ error.cause

end DocStore
