import DocStore.Proofs.Database.Operation

/-!
# The file keeps up with the tree

A database that has made its file is written after every change to its tree, and what is not written has changed
nothing: the tree starts without empty collections and never gets one. So at every moment of a run the bytes of the file
are those of the tree, whether the last operation was carried out, turned down or only read.
-/

namespace DocStore

/-- A run can be looked at in the middle. -/
theorem Served.split {db db' : Database} {disk disk' : Disk} {done rest : List Operation}
    (h : Served db disk (done ++ rest) db' disk') :
    ∃ between disk₁, Served db disk done between disk₁ ∧ Served between disk₁ rest db' disk' := by
  induction done generalizing db disk with
  | nil => exact ⟨db, disk, .nil db disk, h⟩
  | cons op done ih =>
    cases h with
    | cons hstored hrest =>
      obtain ⟨between, disk₁, hdone, hafter⟩ := ih hrest
      exact ⟨between, disk₁, .cons hstored hdone, hafter⟩

namespace Database

section
variable {path : String} {indent maxDepth : Nat} {disk₀ : Disk} (absent : disk₀.has path = false)
include absent

theorem openOn_of_absent :
    openOn (.file path indent) maxDepth disk₀ = flush ⟨∅, .file path indent, maxDepth⟩ disk₀ := by
  simp only [openOn, reload, absent, Bool.false_eq_true, if_false]

section
variable {db : Database} {disk : Disk} {ops : List Operation}
  (opened : (openOn (.file path indent) maxDepth disk₀).answer = .ok ())
  (served : Served (openOn (.file path indent) maxDepth disk₀).database
    (openOn (.file path indent) maxDepth disk₀).disk ops db disk)
include opened served

/-- Opening writes the empty tree, and every operation keeps the file and the tree together. -/
theorem written_of_opened : db.medium = .file path indent ∧ db.Written disk := by
  rw [openOn_of_absent absent] at opened served
  have hwritten := written_flush fun path cause h => by rw [opened] at h; cases h
  rw [flush_database] at served
  exact ⟨served.medium_eq, served.written Tree.filled_empty hwritten⟩

/-- Wherever a run is stopped, the bytes of the file are those of the tree. -/
theorem file_holds_tree_throughout {done rest : List Operation} (hops : ops = done ++ rest) :
    ∃ between disk₁,
      Served (openOn (.file path indent) maxDepth disk₀).database
        (openOn (.file path indent) maxDepth disk₀).disk done between disk₁ ∧
      Served between disk₁ rest db disk ∧
      disk₁.find path = .ok (.file (between.tree.encode indent).toUTF8) := by
  rw [hops] at served
  obtain ⟨between, disk₁, hdone, hrest⟩ := served.split
  refine ⟨between, disk₁, hdone, hrest, ?_⟩
  obtain ⟨hmedium, hwritten⟩ := written_of_opened absent opened hdone
  simp only [Written, hmedium] at hwritten
  exact Disk.find_of_read hwritten.2

end

end

def started : Outcome Unit :=
  openOn (.file "db.json" 2) Query.defaultMaxDepth ∅

def afterInsert : Outcome Answer :=
  (Operation.insert "c" "x" []).perform started.database started.disk

def afterDuplicate : Outcome Answer :=
  (Operation.insert "c" "x" []).perform afterInsert.database afterInsert.disk

def afterMissing : Outcome Answer :=
  (Operation.delete "c" "y").perform afterDuplicate.database afterDuplicate.disk

theorem served_afterMissing :
    Served started.database started.disk [.insert "c" "x" [], .insert "c" "x" [], .delete "c" "y"]
      afterMissing.database afterMissing.disk := by
  have hinsert : afterInsert.answer = .ok .done := rfl
  have hduplicate : afterDuplicate.answer = .error (.refused (.duplicateId "c" "x")) := rfl
  have hmissing : afterMissing.answer = .ok (.found false) := rfl
  refine .cons ?_ (.cons ?_ (.cons ?_ (.nil _ _)))
  · intro path cause h
    rw [← afterInsert, hinsert] at h; cases h
  · intro path cause h
    rw [← afterInsert, ← afterDuplicate, hduplicate] at h; cases h
  · intro path cause h
    rw [← afterInsert, ← afterDuplicate, ← afterMissing, hmissing] at h; cases h

/-- One record goes into the file, and neither the same id again nor a missing one changes it. -/
theorem file_holds_tree_throughout_refused :
    (∅ : Disk).has "db.json" = false ∧ started.answer = .ok () ∧
      Served started.database started.disk [.insert "c" "x" [], .insert "c" "x" [], .delete "c" "y"]
        afterMissing.database afterMissing.disk ∧
      afterMissing.disk.find "db.json" =
        .ok (.file "\x7b\n  \"c\": \x7b\n    \"x\": \x7b\x7d\n  \x7d\n\x7d".toUTF8) := by
  have absent : (∅ : Disk).has "db.json" = false := by decide
  refine ⟨absent, rfl, served_afterMissing, ?_⟩
  obtain ⟨between, disk₁, -, hrest, hfind⟩ :=
    file_holds_tree_throughout absent rfl served_afterMissing (List.append_nil _).symm
  cases hrest
  have htext : afterMissing.database.tree.encode 2 =
      "\x7b\n  \"c\": \x7b\n    \"x\": \x7b\x7d\n  \x7d\n\x7d" := by decide +kernel
  rw [hfind, htext]

end Database

end DocStore
