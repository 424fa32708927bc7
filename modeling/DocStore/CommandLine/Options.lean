import DocStore.CommandLine.Arguments

/-!
# Options

The options of each command, how they are spelled, and what has been given of them so far. An option is taken up once;
only ids and verbosity add up.
-/

namespace DocStore.CommandLine

inductive Verb where
  | create
  | createMany
  | insert
  | insertMany
  | read
  | update
  | delete
  | collections
deriving DecidableEq, Repr

def verbs : List (String × Verb) := [
  ("create", .create), ("create-many", .createMany), ("insert", .insert), ("insert-many", .insertMany),
  ("read", .read), ("update", .update), ("delete", .delete), ("collections", .collections)]

def isCommandWord (word : String) : Bool :=
  word = "help" || (verbs.lookup word).isSome

def Verb.operands : Verb → Nat
  | create | createMany | insertMany | delete => 2
  | insert | update => 3
  | read => 1
  | collections => 0

inductive Switch where
  | db
  | config
  | format
  | color
  | verbose
  | quiet
  | help
  | version
  | ids
  | id
  | filter
deriving DecidableEq, Repr

def Switch.long : Switch → String
  | db => "db"
  | config => "config"
  | format => "format"
  | color => "color"
  | verbose => "verbose"
  | quiet => "quiet"
  | help => "help"
  | version => "version"
  | ids => "ids"
  | id => "id"
  | filter => "where"

def Switch.short? : Switch → Option Char
  | config => some 'c'
  | format => some 'F'
  | verbose => some 'v'
  | quiet => some 'q'
  | help => some 'h'
  | version => some 'V'
  | filter => some 'w'
  | db | color | ids | id => none

def Switch.takesValue : Switch → Bool
  | verbose | quiet | help | version => false
  | _ => true

/-- Options that may stand before and behind the command. -/
def sharedSwitches : List Switch :=
  [.db, .config, .format, .color, .verbose, .quiet, .help]

def switches : Option Verb → List Switch
  | none => sharedSwitches ++ [.version]
  | some .insertMany => .ids :: sharedSwitches
  | some .read => .id :: .filter :: sharedSwitches
  | some _ => sharedSwitches

def formats : List (String × Format) := [("text", .text), ("json", .json)]

def colors : List (String × Color) := [("auto", .auto), ("always", .always), ("never", .never)]

structure Given where
  db : Option String := none
  config : Option String := none
  format : Option Format := none
  color : Option Color := none
  verbose : Option Nat := none
  quiet : Option Unit := none
  ids : Option (List String) := none
  id : Option String := none
  filter : Option String := none
  operands : List String := []

def Given.isEmpty (g : Given) : Bool :=
  g.db.isNone && g.config.isNone && g.format.isNone && g.color.isNone && g.verbose.isNone && g.quiet.isNone

/-- Fills a place that must still be free; only then does it matter whether there is a value. -/
def fill {α : Type} (place : Option α) (value : Option α) : Except Stop (Option α) :=
  if place.isSome then .error .conflict
  else
    match value with
    | none => .error .invalidValue
    | some v => .ok (some v)

def path? (text : String) : Option String :=
  if text = "" then none else some text

def splitIds (text : String) : List String :=
  (text.toList.splitOn ',').map String.ofList

def Given.set (g : Given) (switch : Switch) (text : String) : Except Stop Given :=
  match switch with
  | .db => do return { g with db := ← fill g.db (path? text) }
  | .config => do return { g with config := ← fill g.config (path? text) }
  | .format => do return { g with format := ← fill g.format (formats.lookup text) }
  | .color => do return { g with color := ← fill g.color (colors.lookup text) }
  | .ids => .ok { g with ids := some (g.ids.getD [] ++ splitIds text) }
  | .id => do return { g with id := ← fill g.id (some text) }
  | .filter => do return { g with filter := ← fill g.filter (some text) }
  | .verbose | .quiet | .help | .version => .ok g

def maxVerbose : Nat := 255

def Given.mark (g : Given) (switch : Switch) : Except Stop Given :=
  match switch with
  | .verbose => .ok { g with verbose := some (min (g.verbose.getD 0 + 1) maxVerbose) }
  | .quiet => do return { g with quiet := ← fill g.quiet (some ()) }
  | .help => .error .help
  | .version => .error .version
  | _ => .ok g

end DocStore.CommandLine
