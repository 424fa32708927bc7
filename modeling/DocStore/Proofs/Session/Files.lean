import DocStore.Proofs.Database.Operation
import DocStore.Proofs.Disk.Frame
import DocStore.Session

/-!
# What a run does to files

A run that finds its database file leaves it as it was, unless it reports success and its command changes records. Then
the file holds the tree that was loaded with that one operation applied, and no other file has changed. The file has to
be found when the run starts: a path such as `missing/../db.json` leads to nothing until its missing directory is made,
and what it leads to then is written as if it were new (`run_empties_file_behind_missing`).
-/

namespace DocStore

/-! ## Commits and the disk -/

namespace Database

variable {α : Type} {db : Database} {disk : Disk} {change : Change α}

theorem commit_disk_of_refused {refusal : Refusal} (h : change.answer = .error refusal) :
    (db.commit disk change).disk = disk := by
  unfold commit; rw [h]

section
variable {path : String} {indent : Nat} (hmedium : db.medium = .file path indent)
include hmedium

/-- A commit that fails has written nothing, or its save has failed. -/
theorem disk_of_commit_error {e : StoreError} (h : (db.commit disk change).answer = .error e) :
    (db.commit disk change).disk = disk ∨ ∃ text cause, (disk.save path text).1 = .error cause ∧
      (db.commit disk change).disk = (disk.save path text).2 := by
  cases ha : change.answer with
  | error refusal => exact .inl (commit_disk_of_refused ha)
  | ok a =>
    cases hk : change.keep with
    | false => exact .inl (commit_disk_of_not_keep hk)
    | true =>
      have hflush := @flush_file { db with tree := change.tree } disk path indent hmedium
      simp only [commit, ha, hk, if_true, hflush] at h ⊢
      cases hsave : (disk.save path (change.tree.encode indent)).1 with
      | ok u => rw [hsave] at h; cases h
      | error cause => exact .inr ⟨_, cause, hsave, rfl⟩

/-- A commit that succeeds and is to be kept saves the tree. -/
theorem save_of_commit {a : α} (h : (db.commit disk change).answer = .ok a) (hk : change.keep = true) :
    (disk.save path (change.tree.encode indent)).1 = .ok () ∧
      (db.commit disk change).disk = (disk.save path (change.tree.encode indent)).2 := by
  cases ha : change.answer with
  | error refusal => unfold commit at h; rw [ha] at h; cases h
  | ok b =>
    have hflush := @flush_file { db with tree := change.tree } disk path indent hmedium
    simp only [commit, ha, hk, if_true, hflush] at h ⊢
    cases hsave : (disk.save path (change.tree.encode indent)).1 with
    | ok u => exact ⟨rfl, trivial⟩
    | error cause => rw [hsave] at h; cases h

end

end Database

/-! ## Commands -/

namespace CommandLine.Command

def mutates : Command → Bool
  | read .. | collections => false
  | _ => true

def operation? (fresh : Nat → String) : Command → Option Operation
  | create collection text => (Record.parse text).toOption.map (.create collection (fresh 0))
  | createMany collection text =>
    (Record.parseMany text).toOption.map fun records =>
      .createMany collection (records.mapIdx fun n record => (fresh n, record))
  | insert collection id text => (Record.parse text).toOption.map (.insert collection id)
  | insertMany collection ids text => (Record.parseMany text).toOption.map (.insertMany collection ids)
  | update collection id text => (Record.parse text).toOption.map (.update collection id)
  | delete collection id => some (.delete collection id)
  | read .. | collections => none

end CommandLine.Command

namespace Session

open CommandLine (Command)

/-- What a command does to the disk, by what is said of it. -/
structure Carried (fresh : Nat → String) (command : Command) (db : Database) (path : String) (indent : Nat)
    (disk : Disk) (result : Result) : Prop where
  failed : ∀ failure, result.said = .error failure → result.disk = disk ∨
    ∃ text cause, (disk.save path text).1 = .error cause ∧ result.disk = (disk.save path text).2
  read : command.mutates = false → result.disk = disk
  changed : ∀ text, result.said = .ok text → command.mutates = true →
    ∃ op, command.operation? fresh = some op ∧ (disk.save path ((op.change db).tree.encode indent)).1 = .ok () ∧
      result.disk = (disk.save path ((op.change db).tree.encode indent)).2

section
variable {fresh : Nat → String} {command : Command} {db : Database} {path : String} {indent : Nat} {disk : Disk}

theorem carried_of_failure {failure : Failure} {used : Nat} :
    Carried fresh command db path indent disk ⟨.error failure, disk, used⟩ where
  failed _ _ := .inl rfl
  read _ := rfl
  changed _ h := by cases h

theorem carried_of_read {said : Except Failure String} {used : Nat} (hreads : command.mutates = false) :
    Carried fresh command db path indent disk ⟨said, disk, used⟩ where
  failed _ _ := .inl rfl
  read _ := rfl
  changed _ _ h := by rw [hreads] at h; cases h

theorem change_of_error {α : Type} {c : Change α} {used : Nat} {say : α → Except Failure String} {e : StoreError}
    (h : (db.commit disk c).answer = .error e) :
    change db disk c used say = ⟨.error (.store e), (db.commit disk c).disk, used⟩ := by
  simp only [change, h]

theorem change_of_ok {α : Type} {c : Change α} {used : Nat} {say : α → Except Failure String} {a : α}
    (h : (db.commit disk c).answer = .ok a) :
    change db disk c used say = ⟨say a, (db.commit disk c).disk, used⟩ := by
  simp only [change, h]

/-- A change of which success is reported exactly if it is to be kept. -/
theorem carried_of_change (hmedium : db.medium = .file path indent) {α : Type} {c : Change α} {used : Nat}
    {say : α → Except Failure String} (hsay : ∀ a, c.answer = .ok a → (say a).isOk = c.keep) {op : Operation}
    (hop : command.operation? fresh = some op) (htree : (op.change db).tree = c.tree)
    (hmutates : command.mutates = true) :
    Carried fresh command db path indent disk (change db disk c used say) := by
  cases hanswer : (db.commit disk c).answer with
  | error e =>
    rw [change_of_error hanswer]
    refine ⟨fun _ _ => Database.disk_of_commit_error hmedium hanswer, fun h => ?_, fun _ h => ?_⟩
    · rw [hmutates] at h; cases h
    · cases h
  | ok a =>
    rw [change_of_ok hanswer]
    have hkeep := hsay a (Database.answer_of_commit hanswer)
    refine ⟨fun failure hsaid => ?_, fun h => ?_, fun text hsaid _ => ⟨op, hop, ?_⟩⟩
    · dsimp only at hsaid
      rw [hsaid] at hkeep
      exact .inl (Database.commit_disk_of_not_keep hkeep.symm)
    · rw [hmutates] at h; cases h
    · dsimp only at hsaid
      rw [hsaid] at hkeep
      rw [htree]; exact Database.save_of_commit hmedium hanswer hkeep.symm

end

theorem carried_perform (manner : Manner) (fresh : Nat → String) {db : Database} {path : String} {indent : Nat}
    (hmedium : db.medium = .file path indent) (disk : Disk) (command : Command) :
    Carried fresh command db path indent disk (perform manner fresh db disk command) := by
  cases command with
  | create collection text =>
    simp only [perform]
    split
    · exact carried_of_failure
    · rename_i record hrecord
      exact carried_of_change hmedium (fun _ _ => rfl) (by rw [Command.operation?, hrecord]; rfl) rfl rfl
  | createMany collection text =>
    simp only [perform]
    split
    · exact carried_of_failure
    · rename_i records hrecords
      exact carried_of_change hmedium (fun _ _ => rfl) (by rw [Command.operation?, hrecords]; rfl) rfl rfl
  | insert collection id text =>
    simp only [perform]
    split
    · exact carried_of_failure
    · rename_i record hrecord
      refine carried_of_change hmedium (fun a ha => ?_) (by rw [Command.operation?, hrecord]; rfl) rfl rfl
      unfold Tree.insert at ha ⊢
      split
      · rename_i htaken; rw [if_pos htaken] at ha; cases ha
      · rfl
  | insertMany collection ids text =>
    simp only [perform]
    split
    · exact carried_of_failure
    · rename_i records hrecords
      refine carried_of_change hmedium (fun a ha => ?_) (by rw [Command.operation?, hrecords]; rfl) rfl rfl
      unfold Tree.insertMany at ha ⊢
      split
      · rfl
      · rename_i hlength; rw [if_neg hlength] at ha; cases ha
  | read collection id filter =>
    cases id with
    | none => exact carried_of_read rfl
    | some id =>
      simp only [perform]
      split <;> exact carried_of_read rfl
  | update collection id text =>
    simp only [perform]
    split
    · exact carried_of_failure
    · rename_i fields hfields
      refine carried_of_change hmedium (fun found hfound => ?_) (by rw [Command.operation?, hfields]; rfl) rfl rfl
      unfold Tree.update at hfound ⊢
      cases hrecord : db.tree.get? collection id with
      | none => rw [hrecord] at hfound; cases hfound; rfl
      | some record => rw [hrecord] at hfound; cases hfound; rfl
  | delete collection id =>
    refine carried_of_change hmedium (fun found hfound => ?_) rfl rfl rfl
    have hkeep : found = (db.tree.delete collection id).keep := (Except.ok.inj hfound).symm
    rw [← hkeep]
    cases found <;> rfl
  | collections => exact carried_of_read rfl

/-! ## Runs -/

structure Request where
  path : String
  indent : Nat
  maxDepth : Nat
  command : Command
deriving DecidableEq

def request? (environment : Environment) (arguments : List String) (disk : Disk) : Option Request :=
  match CommandLine.parse environment.database arguments with
  | .error _ => none
  | .ok arguments =>
    match Settings.load arguments.config disk with
    | .error _ => none
    | .ok settings =>
      some ⟨arguments.db.getD settings.path, settings.indent, settings.maxDepth, arguments.command⟩

def Request.database (request : Request) (text : String) : Database :=
  ⟨.ofText text, .file request.path request.indent, request.maxDepth⟩

section
variable {environment : Environment} {fresh : Nat → String} {arguments : List String} {disk : Disk}

theorem run_of_no_request (h : request? environment arguments disk = none) :
    (run environment fresh arguments disk).2 = disk := by
  unfold request? at h
  unfold run
  cases hparse : CommandLine.parse environment.database arguments with
  | error stop => rfl
  | ok parsed =>
    rw [hparse] at h
    cases hload : Settings.load parsed.config disk with
    | error e => simp only [carryOut, hload]
    | ok settings => simp only [hload] at h; cases h

theorem openOn_file {path : String} {place : Disk.Place} {bytes : ByteArray} (hplace : disk.resolve path = .ok place)
    (hfile : disk.node? place = some (.file bytes)) (indent maxDepth : Nat) :
    Database.openOn (.file path indent) maxDepth disk = match String.fromUTF8? bytes with
      | some text => ⟨.ok (), ⟨.ofText text, .file path indent, maxDepth⟩, disk⟩
      | none => ⟨.error (.inaccessible path .notText), ⟨∅, .file path indent, maxDepth⟩, disk⟩ := by
  have hfind : disk.find path = .ok (.file bytes) := by
    rw [Disk.find, hplace]
    simp only [bind, Except.bind, hfile]
    rfl
  have hhas : disk.has path = true := by rw [Disk.has, hfind]; rfl
  simp only [Database.openOn, Database.reload, hhas, if_true, Disk.read, hfind, bind, Except.bind]
  cases String.fromUTF8? bytes <;> rfl

/-- A run with a request carries its command out, unless the file is no text. -/
theorem run_of_request {request : Request} (h : request? environment arguments disk = some request)
    {place : Disk.Place} {bytes : ByteArray} (hplace : disk.resolve request.path = .ok place)
    (hfile : disk.node? place = some (.file bytes)) :
    ∃ result : Result, (run environment fresh arguments disk).2 = result.disk ∧
      ((run environment fresh arguments disk).1.code = 0 ↔ ∃ out, result.said = .ok out) ∧
      ((∃ text, String.fromUTF8? bytes = some text ∧
          Carried fresh request.command (request.database text) request.path request.indent disk result) ∨
        ∃ failure, result.said = .error failure ∧ result.disk = disk) := by
  unfold request? at h
  cases hparse : CommandLine.parse environment.database arguments with
  | error stop => rw [hparse] at h; cases h
  | ok parsed =>
    rw [hparse] at h
    cases hload : Settings.load parsed.config disk with
    | error e => simp only [hload] at h; cases h
    | ok settings =>
      simp only [hload] at h
      cases h
      refine ⟨carryOut environment fresh parsed disk, ?_, ?_, ?_⟩
      · simp only [run, hparse]; split <;> rfl
      · simp only [run, hparse]
        split
        · rename_i out hsaid; simp [hsaid]
        · rename_i failure hsaid; simp [hsaid]
      · dsimp only at hplace
        simp only [carryOut, hload, openOn_file hplace hfile]
        cases htext : String.fromUTF8? bytes with
        | none => exact .inr ⟨_, rfl, rfl⟩
        | some text => exact .inl ⟨text, rfl, carried_perform _ fresh rfl disk parsed.command⟩

end

/-- A run changes the database file that it finds only if it reports success and its command changes records, and then
the file holds the loaded tree with that one operation applied, as text. That is, as long as a write to the file that
fails leaves it as it was. Every other file stays as it was in any case. -/
theorem run_changes_file_by_mutation (environment : Environment) (fresh : Nat → String) (arguments : List String)
    (disk : Disk) :
    (request? environment arguments disk = none → (run environment fresh arguments disk).2 = disk) ∧
    ∀ request place bytes, request? environment arguments disk = some request →
      disk.resolve request.path = .ok place → disk.node? place = some (.file bytes) →
      (disk.Untorn place → ¬ ((run environment fresh arguments disk).1.code = 0 ∧ request.command.mutates = true) →
        (run environment fresh arguments disk).2.node? place = some (.file bytes)) ∧
      ((run environment fresh arguments disk).1.code = 0 → request.command.mutates = true →
        ∃ text op, String.fromUTF8? bytes = some text ∧ request.command.operation? fresh = some op ∧
          (run environment fresh arguments disk).2.node? place =
            some (.file ((op.change (request.database text)).tree.encode request.indent).toUTF8)) ∧
      ∀ other content, other ≠ place → disk.node? other = some (.file content) →
        (run environment fresh arguments disk).2.node? other = some (.file content) := by
  refine ⟨run_of_no_request, fun request place bytes hrequest hplace hfile => ?_⟩
  obtain ⟨result, hdisk, hcode, hresult⟩ := @run_of_request _ fresh _ _ _ hrequest _ _ hplace hfile
  rw [hdisk, hcode]
  rcases hresult with ⟨text, htext, hcarried⟩ | ⟨failure, hsaid, hsame⟩
  · cases hsaid : result.said with
    | error failure =>
      rcases hcarried.failed failure hsaid with hsame | ⟨written, cause, hfailed, hafter⟩
      · rw [hsame]
        exact ⟨fun _ _ => hfile, nofun, fun other content _ => id⟩
      · rw [hafter]
        refine ⟨fun huntorn _ => (Disk.file_iff_of_save_error hfailed huntorn).mpr hfile, nofun, ?_⟩
        exact fun other content hne => Disk.node?_save_of_ne hplace hne
    | ok out =>
      cases hmutates : request.command.mutates with
      | false =>
        rw [hcarried.read hmutates]
        exact ⟨fun _ _ => hfile, fun _ => nofun, fun other content _ => id⟩
      | true =>
        obtain ⟨op, hop, hsaved, hafter⟩ := hcarried.changed out hsaid hmutates
        rw [hafter]
        refine ⟨fun _ h => absurd ⟨⟨out, rfl⟩, rfl⟩ h,
          fun _ _ => ⟨text, op, htext, hop, Disk.node?_save hplace hsaved⟩, ?_⟩
        exact fun other content hne => Disk.node?_save_of_ne hplace hne
  · rw [hsame, hsaid]
    exact ⟨fun _ _ => hfile, nofun, fun other content _ => id⟩

def oneRecord : String :=
  "\x7b\"c\":\x7b\"x\":\x7b\"a\":1\x7d\x7d\x7d"

def oneFile : Disk :=
  (∅ : Disk).set ["db.json"] (.file oneRecord.toUTF8)

def lockedDisk : Disk :=
  { oneFile with fault? := fun _ _ => some ⟨.system "Permission denied" 13, none⟩ }

def deleting (id : String) : List String :=
  ["--db", "db.json", "delete", "c", id]

def afterDeleting (id : String) (disk : Disk) : Summary × Disk :=
  run {} toString (deleting id) disk

/-- Deleting the record writes the file anew. Deleting one that is not there fails and leaves it as it is, not even laid
out in lines, and so does deleting the record when the file must not be written. -/
theorem run_changes_file_by_mutation_delete :
    (∀ id ∈ ["x", "y"], ∀ disk ∈ [oneFile, lockedDisk],
      request? {} (deleting id) disk = some ⟨"db.json", 4, 64, .delete "c" id⟩) ∧
      (∀ disk ∈ [oneFile, lockedDisk], disk.resolve "db.json" = .ok ["db.json"] ∧
        disk.node? ["db.json"] = some (.file oneRecord.toUTF8) ∧ disk.Untorn ["db.json"]) ∧
      (afterDeleting "x" oneFile).1.code = 0 ∧ (afterDeleting "y" oneFile).1.code = 1 ∧
      (afterDeleting "x" lockedDisk).1.code = 1 ∧
      (afterDeleting "x" oneFile).2.node? ["db.json"] = some (.file "\x7b\x7d".toUTF8) ∧
      (afterDeleting "y" oneFile).2.node? ["db.json"] = some (.file oneRecord.toUTF8) ∧
      (afterDeleting "x" lockedDisk).2.node? ["db.json"] = some (.file oneRecord.toUTF8) := by
  have hrequest : ∀ id ∈ ["x", "y"], ∀ disk ∈ [oneFile, lockedDisk],
      request? {} (deleting id) disk = some ⟨"db.json", 4, 64, .delete "c" id⟩ := by
    decide +kernel
  have hfound : ∀ disk ∈ [oneFile, lockedDisk], disk.resolve "db.json" = .ok ["db.json"] ∧
      disk.node? ["db.json"] = some (.file oneRecord.toUTF8) ∧ disk.Untorn ["db.json"] := by
    refine List.forall_mem_cons.mpr ⟨⟨rfl, rfl, nofun⟩, List.forall_mem_singleton.mpr ⟨rfl, rfl, ?_⟩⟩
    rintro _ _ ⟨⟩
    rfl
  have hdone : (afterDeleting "x" oneFile).1.code = 0 := by decide +kernel
  have hmissed : (afterDeleting "y" oneFile).1.code = 1 := by decide +kernel
  have hfailed : (afterDeleting "x" lockedDisk).1.code = 1 := by decide +kernel
  have hkept : ∀ id ∈ ["x", "y"], ∀ disk ∈ [oneFile, lockedDisk], (afterDeleting id disk).1.code = 1 →
      (afterDeleting id disk).2.node? ["db.json"] = some (.file oneRecord.toUTF8) := by
    intro id hid disk hdisk hcode
    obtain ⟨hplace, hfile, huntorn⟩ := hfound disk hdisk
    have h := (run_changes_file_by_mutation {} toString (deleting id) disk).2 _ _ _ (hrequest id hid disk hdisk)
      hplace hfile
    exact h.1 huntorn fun hsuccess => absurd (hcode.symm.trans hsuccess.1) (by decide)
  refine ⟨hrequest, hfound, hdone, hmissed, hfailed, ?_, hkept "y" (by decide) _ List.mem_cons_self hmissed,
    hkept "x" (by decide) _ (List.mem_cons_of_mem _ List.mem_cons_self) hfailed⟩
  obtain ⟨hplace, hfile, -⟩ := hfound oneFile List.mem_cons_self
  have h := (run_changes_file_by_mutation {} toString (deleting "x") oneFile).2 _ _ _
    (hrequest "x" (by decide) _ List.mem_cons_self) hplace hfile
  obtain ⟨text, op, htext, hop, hafter⟩ := h.2.1 hdone rfl
  cases hop
  rw [Disk.fromUTF8?_toUTF8] at htext
  cases htext
  have hempty : ((Operation.delete "c" "x").change ⟨.ofText oneRecord, .memory, 64⟩).tree.encode 4 = "\x7b\x7d" := by
    decide +kernel
  rw [afterDeleting, hafter]
  exact congrArg (fun text : String => some (Disk.Node.file text.toUTF8)) hempty

def listingBehindMissing : Summary × Disk :=
  run {} toString ["--db", "missing/../db.json", "collections"] oneFile

/-- A path through a missing directory leads to nothing. Opening makes the directory, and writes the file that the path
leads to then as if it were new, also for a command that only reads. -/
theorem run_empties_file_behind_missing :
    oneFile.resolve "missing/../db.json" = .error .noEntry ∧ listingBehindMissing.1.code = 0 ∧
      listingBehindMissing.2.node? ["db.json"] = some (.file "\x7b\x7d".toUTF8) := by
  refine ⟨rfl, by decide +kernel, ?_⟩
  rfl

end Session

end DocStore
