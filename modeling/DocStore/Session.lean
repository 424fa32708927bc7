import DocStore.CommandLine.Reader
import DocStore.Report
import DocStore.Session.Failure

/-!
# Sessions

One run of the command line: its arguments are read, then the settings, then the database is opened, and one command is
carried out. A session needs the environment, a disk and a supply of new ids, and leaves a report and the disk.
-/

namespace DocStore.Session

structure Environment where
  database : Option String := none
  forceColor : Option String := none

/-- What carrying out a command comes to: what is said or why it failed, and how many new ids were used. -/
structure Result where
  said : Except Failure String
  disk : Disk
  used : Nat := 0

structure Manner where
  format : CommandLine.Format
  color : Bool

def Manner.say (manner : Manner) (text : String) (json : Json) : String :=
  match manner.format with
  | .text => text
  | .json => json.pretty ++ "\n"

def change {α : Type} (db : Database) (disk : Disk) (change : Change α) (used : Nat)
    (say : α → Except Failure String) : Result :=
  let outcome := db.commit disk change
  match outcome.answer with
  | .error e => ⟨.error (.store e), outcome.disk, used⟩
  | .ok answer => ⟨say answer, outcome.disk, used⟩

def lines (texts : List String) : String :=
  String.join (texts.map (· ++ "\n"))

def insertedLine (id : String) (inserted : Bool) : String :=
  if inserted then id ++ ": inserted" else id ++ ": skipped (id already exists)"

def insertedJson (id : String) (inserted : Bool) : Json :=
  .object [("id", .str id), ("inserted", .bool inserted)]

def readDocuments (manner : Manner) (db : Database) (collection : String) (filter : Option String) : String :=
  let documents := match filter with
    | some expression => db.readWhere collection expression
    | none => db.readAll collection
  manner.say (Report.documents manner.color collection documents) (.array (documents.map Document.toJson))

/-- Carries a command out; `fresh` gives new ids. -/
def perform (manner : Manner) (fresh : Nat → String) (db : Database) (disk : Disk) : CommandLine.Command → Result
  | .create collection text =>
    match Record.parse text with
    | .error e => ⟨.error (.badObject "Record" text e), disk, 0⟩
    | .ok record => change db disk (db.tree.create collection (fresh 0) record) 1 fun id =>
        .ok (manner.say (id ++ "\n") (.object [("id", .str id)]))
  | .createMany collection text =>
    match Record.parseMany text with
    | .error e => ⟨.error (.badRecords text e), disk, 0⟩
    | .ok records =>
      let entries := records.mapIdx fun n record => (fresh n, record)
      change db disk (db.tree.createMany collection entries) records.length fun ids =>
        .ok (manner.say (lines ids) (.object [("ids", .array (ids.map .str))]))
  | .insert collection id text =>
    match Record.parse text with
    | .error e => ⟨.error (.badObject "Record" text e), disk, 0⟩
    | .ok record => change db disk (db.tree.insert collection id record) 0 fun _ =>
        .ok (manner.say (id ++ "\n") (.object [("id", .str id)]))
  | .insertMany collection ids text =>
    match Record.parseMany text with
    | .error e => ⟨.error (.badRecords text e), disk, 0⟩
    | .ok records => change db disk (db.tree.insertMany collection ids records) 0 fun flags =>
        .ok (manner.say (lines (List.zipWith insertedLine ids flags))
          (.array (List.zipWith insertedJson ids flags)))
  | .read collection (some id) _ =>
    match db.read collection id with
    | none => ⟨.error (.notFound id collection), disk, 0⟩
    | some record =>
      ⟨.ok (manner.say (Report.record manner.color id record) (Document.mk id record).toJson), disk, 0⟩
  | .read collection none filter => ⟨.ok (readDocuments manner db collection filter), disk, 0⟩
  | .update collection id text =>
    match Record.parse text with
    | .error e => ⟨.error (.badObject "Fields" text e), disk, 0⟩
    | .ok fields => change db disk (db.tree.update collection id fields) 0 fun found =>
        if found then .ok (manner.say ("Updated " ++ id ++ "\n") (.object [("id", .str id), ("updated", .bool true)]))
        else .error (.notFound id collection)
  | .delete collection id => change db disk (db.tree.delete collection id) 0 fun found =>
      if found then .ok (manner.say ("Deleted " ++ id ++ "\n") (.object [("deleted", .bool true), ("id", .str id)]))
      else .error (.notFound id collection)
  | .collections => ⟨.ok (manner.say (lines db.collections) (.array (db.collections.map .str))), disk, 0⟩

/-- Whether styles are shown: as the arguments say, else only if the environment forces it. -/
def showsColor (environment : Environment) : CommandLine.Color → Bool
  | .always => true
  | .never => false
  | .auto => environment.forceColor.any (· ≠ "0")

def carryOut (environment : Environment) (fresh : Nat → String) (arguments : CommandLine.Arguments) (disk : Disk) :
    Result :=
  match Settings.load arguments.config disk with
  | .error e => ⟨.error (.settings e), disk, 0⟩
  | .ok settings =>
    let path := arguments.db.getD settings.path
    let opened := Database.openOn (.file path settings.indent) settings.maxDepth disk
    match opened.answer with
    | .error e => ⟨.error (.opening path e), opened.disk, 0⟩
    | .ok _ =>
      perform ⟨arguments.format, showsColor environment arguments.color⟩ fresh opened.database opened.disk
        arguments.command

structure Summary where
  code : UInt32
  out : String
  err : String
  used : Nat
deriving DecidableEq, Repr

def version : String := "jsondb 0.1.0\n"

def usage : String :=
  "Usage: jsondb [OPTIONS] <COMMAND>\n\nCommands: " ++
    String.intercalate ", " (CommandLine.verbs.map (·.1) ++ ["help"]) ++ "\n"

def stopped : CommandLine.Stop → Summary
  | .help => ⟨0, usage, "", 0⟩
  | .version => ⟨0, version, "", 0⟩
  | _ => ⟨2, "", usage, 0⟩

def run (environment : Environment) (fresh : Nat → String) (arguments : List String) (disk : Disk) : Summary × Disk :=
  match CommandLine.parse environment.database arguments with
  | .error stop => (stopped stop, disk)
  | .ok arguments =>
    let result := carryOut environment fresh arguments disk
    match result.said with
    | .ok text => (⟨0, text, "", result.used⟩, result.disk)
    | .error failure => (⟨1, "", failure.text, result.used⟩, result.disk)

end DocStore.Session
