import DocStore.Session
import DocStore.Uuid

/-!
# The program

Looks at the files that a session needs, runs it, and makes the changes that it made to its disk.
-/

namespace DocStore.Main

def pathOf (place : Disk.Place) : String :=
  match place.reverse with
  | "/" :: names => "/" ++ String.intercalate "/" names
  | names => String.intercalate "/" names

def observeAt (disk : Disk) (place : Disk.Place) : IO Disk := do
  match ← (IO.FS.readBinFile (pathOf place)).toBaseIO with
  | .ok bytes => return disk.set place (.file bytes)
  | .error (.inappropriateType _ 21 _) => return disk.set place .directory
  | .error _ => return disk

def observe (disk : Disk) (path : String) : IO Disk := do
  let mut disk := disk
  let mut place := Disk.base path
  for name in Disk.steps path do
    place := if name = ".." then place.up else if name = "." then place else name :: place
    unless place.isBase do
      disk ← observeAt disk place
  return disk

def observeFor (environment : Session.Environment) (arguments : List String) : IO Disk := do
  match CommandLine.parse environment.database arguments with
  | .error _ => return ∅
  | .ok arguments =>
    let disk ← match arguments.config with
      | some path => observe ∅ path
      | none => pure ∅
    match Settings.load arguments.config disk with
    | .error _ => return disk
    | .ok settings => observe disk (arguments.db.getD settings.path)

def apply (before after : Disk) : IO Unit := do
  for (place, node) in (after.nodes.take (after.nodes.length - before.nodes.length)).reverse do
    match node with
    | .file bytes => IO.FS.writeBinFile (pathOf place) bytes
    | .directory => IO.FS.createDir (pathOf place)

/-- New ids from random bytes, enough for as many records as the arguments can hold. -/
def drawIds (arguments : List String) : IO (Nat → String) := do
  let count := arguments.foldl (fun n argument => n + argument.length) 1
  let bytes ← IO.getRandomBytes (16 * count).toUSize
  return fun n => Uuid.ofBytes (bytes.extract (16 * n) (16 * n + 16)).toList

def run (arguments : List String) : IO UInt32 := do
  let environment : Session.Environment :=
    { database := ← IO.getEnv "JSONDB_PATH", forceColor := ← IO.getEnv "CLICOLOR_FORCE" }
  let disk ← observeFor environment arguments
  let (summary, after) := Session.run environment (← drawIds arguments) arguments disk
  apply disk after
  (← IO.getStdout).putStr summary.out
  (← IO.getStderr).putStr summary.err
  return summary.code

end DocStore.Main

def main (arguments : List String) : IO UInt32 :=
  DocStore.Main.run arguments
