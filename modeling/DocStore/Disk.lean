import DocStore.Disk.Place

/-!
# Disks

A disk holds files and directories by place, as far as a program sees them: it can look whether a path leads
somewhere, read the text of a file, and save a text, which makes the directories on the way. What goes wrong has a
cause. A disk can also fail to write for reasons of its own, and may leave the file torn then.
-/

namespace DocStore

inductive Disk.Node where
  | file (bytes : ByteArray)
  | directory

inductive Disk.Cause where
  | noEntry
  | present
  | notDirectory
  | isDirectory
  | nameTooLong
  | nulInName
  | notText
  /-- Any other error of the system, such as a full disk or one that must not be written. -/
  | system (text : String) (code : Nat)
deriving DecidableEq, Repr

def Disk.Cause.message : Cause → String
  | noEntry => "No such file or directory (os error 2)"
  | present => "File exists (os error 17)"
  | notDirectory => "Not a directory (os error 20)"
  | isDirectory => "Is a directory (os error 21)"
  | nameTooLong => "File name too long (os error 36)"
  | nulInName => "file name contained an unexpected NUL byte"
  | notText => "stream did not contain valid UTF-8"
  | system text code => text ++ " (os error " ++ toString code ++ ")"

/-- A write that fails, and what the file holds then, unless it is as it was. -/
structure Disk.Fault where
  cause : Disk.Cause
  torn : Option ByteArray

/-- Nodes by place, of which at one place the first one counts, and the texts that cannot be written to a place. -/
structure Disk where
  nodes : List (Disk.Place × Disk.Node)
  fault? : Disk.Place → String → Option Disk.Fault := fun _ _ => none

namespace Disk

def empty : Disk := { nodes := [] }

instance : EmptyCollection Disk := ⟨empty⟩

def node? (d : Disk) (place : Place) : Option Node :=
  if place.isBase then some .directory else d.nodes.lookup place

def set (d : Disk) (place : Place) (node : Node) : Disk :=
  { d with nodes := (place, node) :: d.nodes }

theorem node?_set (d : Disk) (place other : Place) (node : Node) (h : place.isBase = false) :
    (d.set place node).node? other = if other = place then some node else d.node? other := by
  by_cases he : other = place
  · subst he
    simp [node?, set, h]
  · have hne : (other == place) = false := beq_eq_false_iff_ne.2 he
    simp [node?, set, List.lookup_cons, hne, he]

/-! ## Following a path -/

/-- Longest name, and longest path with the byte that ends it. -/
def maxName : Nat := 255
def maxPath : Nat := 4096

def checkNames (names : List String) : Except Cause Unit :=
  if names.any fun name => name.toList.any (·.toNat = 0) then .error .nulInName
  else if names.foldl (fun n name => n + name.utf8ByteSize + 1) 0 > maxPath then .error .nameTooLong
  else .ok ()

def enter (d : Disk) (place : Place) (name : String) : Except Cause Place :=
  match d.node? place with
  | none => .error .noEntry
  | some (.file _) => .error .notDirectory
  | some .directory =>
    if name = "" ∨ name = "." then .ok place
    else if name = ".." then .ok place.up
    else if name.utf8ByteSize > maxName then .error .nameTooLong
    else .ok (name :: place)

def walk (d : Disk) (place : Place) (names : List String) : Except Cause Place :=
  names.foldlM d.enter place

/-- The place that a path leads to, whether or not something is there. -/
def resolve (d : Disk) (path : String) : Except Cause Place := do
  if path = "" then throw .noEntry
  checkNames (names path)
  d.walk (base path) (names path)

def find (d : Disk) (path : String) : Except Cause Node := do
  match d.node? (← d.resolve path) with
  | some node => return node
  | none => throw .noEntry

def has (d : Disk) (path : String) : Bool :=
  (d.find path).toOption.isSome

def read (d : Disk) (path : String) : Except Cause String := do
  match ← d.find path with
  | .directory => throw .isDirectory
  | .file bytes =>
    match String.fromUTF8? bytes with
    | some text => return text
    | none => throw .notText

/-! ## Saving a text -/

/-- Makes the directory called `name` inside the one that `outer` leads to, innermost name first. -/
def makeDir (d : Disk) (start : Place) (name : String) (outer : List String) : Except Cause Disk := do
  checkNames (name :: outer)
  let place ← d.enter (← d.walk start outer.reverse) name
  match d.node? place with
  | some _ => throw .present
  | none => return d.set place .directory

/-- Lets a directory that is there already count as made. -/
def acceptPresent (d : Disk) (start : Place) (names : List String) :
    Except Cause Disk → Except Cause Unit × Disk
  | .ok made => (.ok (), made)
  | .error .present =>
    match (d.walk start names.reverse).map d.node? with
    | .ok (some .directory) => (.ok (), d)
    | _ => (.error .present, d)
  | .error cause => (.error cause, d)

/-- Makes a directory and those around it that are missing; what was made before a failure stays. -/
def makeDirs (start : Place) : List String → Disk → Except Cause Unit × Disk
  | [], d => (.ok (), d)
  | name :: outer, d =>
    match d.makeDir start name outer with
    | .error .noEntry =>
      match makeDirs start outer d with
      | (.ok (), d) => d.acceptPresent start (name :: outer) (d.makeDir start name outer)
      | failed => failed
    | result => d.acceptPresent start (name :: outer) result

/-- The place of a file that is to be written. It must be named inside a directory, to which the last dot leads, and a
slash behind its name or a name of dots asks for a directory instead. -/
def target (d : Disk) (path : String) : Except Cause Place := do
  if path = "" then throw .noEntry
  checkNames (names path)
  match (names path).reverse.dropWhile (· = "") with
  | [] => throw .isDirectory
  | name :: outer =>
    let place ← d.walk (base path) ("." :: outer).reverse
    if name = "." ∨ name = ".." ∨ (names path).getLast? = some "" then throw .isDirectory
    d.enter place name

def tear (d : Disk) (place : Place) : Option ByteArray → Disk
  | none => d
  | some bytes => d.set place (.file bytes)

def write (d : Disk) (path text : String) : Except Cause Unit × Disk :=
  match d.target path with
  | .error cause => (.error cause, d)
  | .ok place =>
    match d.node? place with
    | some .directory => (.error .isDirectory, d)
    | _ =>
      match d.fault? place text with
      | none => (.ok (), d.set place (.file text.toUTF8))
      | some fault => (.error fault.cause, d.tear place fault.torn)

def save (d : Disk) (path text : String) : Except Cause Unit × Disk :=
  match makeDirs (base path) (folder path) d with
  | (.ok (), d) => d.write path text
  | failed => failed

def erase (d : Disk) (path : String) : Disk :=
  match d.resolve path with
  | .ok place => { d with nodes := d.nodes.filter fun (other, _) => !place.isSuffixOf other }
  | .error _ => d

end Disk

end DocStore
