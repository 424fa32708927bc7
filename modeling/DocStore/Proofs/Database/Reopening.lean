import DocStore.Proofs.Database.WriteThrough
import DocStore.Proofs.Tree.RoundTrip
import DocStore.Proofs.Value.Decoding

/-!
# Opening a database again

Two levels of nesting go to the tree and the collection, so a record that was read on its own may be too deep to be
read from the file. One such record makes the whole file count as empty.
-/

namespace DocStore

namespace Operation

/-- The records among the arguments were read from JSON texts. -/
def Decoded : Operation → Prop
  | create _ _ record | insert _ _ record | update _ _ record => ∃ text, Record.parse text = .ok record
  | createMany _ entries => ∃ text, Record.parseMany text = .ok (entries.map (·.2))
  | insertMany _ _ records => ∃ text, Record.parseMany text = .ok records
  | _ => True

theorem Decoded.tidy {op : Operation} (h : op.Decoded) : ∀ record ∈ op.records, record.Tidy := by
  cases op with
  | create collection id record | insert collection id record | update collection id record =>
    obtain ⟨text, htext⟩ := h
    exact List.forall_mem_singleton.mpr (Record.tidy_of_parse htext)
  | createMany collection entries => exact Record.tidy_of_parseMany h.choose_spec
  | insertMany collection ids records => exact Record.tidy_of_parseMany h.choose_spec
  | _ => nofun

end Operation

theorem Tree.kept_tidy : Tree.Kept (Tree.Each Record.Tidy) Record.Tidy :=
  Tree.kept_each Record.Tidy.merge

namespace Record

structure Reopens (record : Record) : Prop where
  nesting : record.toJson.nesting ≤ 125
  floats : ∀ x, Value.float x ∈ Value.parts (.object record) → Value.KeepsText x

end Record

namespace Tree

theorem ofText_encode_of_deep {t : Tree} {name id : String} {record : Record} (hr : t.get? name id = some record)
    (hdeep : 125 < record.toJson.nesting) (indent : Nat) : ofText (t.encode indent) = ∅ := by
  have hnesting : ¬ t.toJson.nesting ≤ Json.maxNesting := by
    -- the tree and the collection take two of the levels
    intro h
    have := nesting_le_iff.mp h name id record hr
    omega
  rw [ofText, parse_encode, Json.within, if_neg hnesting]; rfl

theorem ofText_encode_of_tidy {t : Tree} (htidy : t.Each Record.Tidy) (indent : Nat) :
    ofText (t.encode indent) = t ↔ t.Each Record.Reopens := by
  have hlasting : (∀ v ∈ t.values, v.Lasting) ↔
      t.Each fun record => ∀ x, Value.float x ∈ Value.parts (.object record) → Value.KeepsText x := by
    rw [forall_values_iff]
    constructor
    · intro h name id record hr x hx
      exact h name id record hr _ hx
    · intro h name id record hr v hv
      refine Value.lasting_iff.mpr ⟨htidy name id record hr v hv, ?_⟩
      rintro x rfl
      exact h name id record hr x hv
  have hnesting : t.toJson.nesting ≤ Json.maxNesting ↔ t.Each fun record => record.toJson.nesting ≤ 125 :=
    nesting_le_iff
  rw [ofText_encode_eq_self, hnesting, hlasting]
  constructor
  · rintro ⟨hn, hf⟩ name id record hr
    exact ⟨hn name id record hr, hf name id record hr⟩
  · intro h
    exact ⟨fun name id record hr => (h name id record hr).nesting,
      fun name id record hr => (h name id record hr).floats⟩

end Tree

namespace Database

theorem openOn_of_written {db : Database} {disk : Disk} {path : String} {indent : Nat} (hwritten : db.Written disk)
    (hmedium : db.medium = .file path indent) (indent' maxDepth : Nat) :
    openOn (.file path indent') maxDepth disk =
      ⟨.ok (), ⟨.ofText (db.tree.encode indent), .file path indent', maxDepth⟩, disk⟩ := by
  simp only [Written, hmedium] at hwritten
  exact reload_of_read rfl hwritten.1 hwritten.2

section
variable {path : String} {indent maxDepth : Nat} {disk₀ : Disk} (absent : disk₀.has path = false)
include absent

/-- What opening establishes and every operation keeps. -/
theorem written_of_served {db : Database} {disk : Disk} {ops : List Operation}
    (opened : (openOn (.file path indent) maxDepth disk₀).answer = .ok ())
    (served : Served (openOn (.file path indent) maxDepth disk₀).database
      (openOn (.file path indent) maxDepth disk₀).disk ops db disk)
    (decoded : ∀ op ∈ ops, op.Decoded) :
    db.medium = .file path indent ∧ db.Written disk ∧ db.tree.Each Record.Tidy := by
  obtain ⟨hmedium, hwritten⟩ := written_of_opened absent opened served
  rw [openOn_of_absent absent, flush_database] at served
  exact ⟨hmedium, hwritten, served.kept Tree.kept_tidy Tree.each_empty fun op hop => (decoded op hop).tidy⟩

/-- Opening a file again that a database has made gives its tree exactly if each record comes back, and the empty tree
as soon as one is too deep. -/
theorem reopening_keeps_tree_iff {db : Database} {disk : Disk} {ops : List Operation}
    (opened : (openOn (.file path indent) maxDepth disk₀).answer = .ok ())
    (served : Served (openOn (.file path indent) maxDepth disk₀).database
      (openOn (.file path indent) maxDepth disk₀).disk ops db disk)
    (decoded : ∀ op ∈ ops, op.Decoded) (indent' maxDepth' : Nat) :
    (openOn (.file path indent') maxDepth' disk).answer = .ok () ∧
      ((openOn (.file path indent') maxDepth' disk).database.tree = db.tree ↔ db.tree.Each Record.Reopens) ∧
      ∀ collection id record, db.tree.get? collection id = some record → 125 < record.toJson.nesting →
        (openOn (.file path indent') maxDepth' disk).database.tree = ∅ := by
  obtain ⟨hmedium, hwritten, htidy⟩ := written_of_served absent opened served decoded
  rw [openOn_of_written hwritten hmedium]
  refine ⟨rfl, Tree.ofText_encode_of_tidy htidy indent, fun collection id record hr hdeep => ?_⟩
  exact Tree.ofText_encode_of_deep hr hdeep indent

end

/-! ### A record that is too deep by one -/

def tower : Nat → Value
  | 0 => .array []
  | n + 1 => .array [tower n]

def nested (n : Nat) : Record :=
  [("a", tower n)]

theorem nesting_tower (n : Nat) : (tower n).toJson.nesting = n + 1 := by
  induction n with
  | zero => rfl
  | succ n ih => simp [tower, Value.toJson, Value.itemsToJson, Json.nesting, Json.itemsNesting, ih]

theorem nesting_nested (n : Nat) : (nested n).toJson.nesting = n + 2 := by
  simp [nested, Record.toJson, Value.toJson, Value.fieldsToJson, Json.nesting, Json.membersNesting, nesting_tower]

theorem parts_tower (n : Nat) : ∀ v ∈ (tower n).parts, ∃ items, v = .array items := by
  induction n with
  | zero => simp [tower, Value.parts, Value.itemsParts]
  | succ n ih => simpa [tower, Value.parts, Value.itemsParts] using ih

theorem lasting_nested (n : Nat) : ∀ v ∈ Value.parts (.object (nested n)), v.Lasting := by
  have hparts : Value.parts (.object (nested n)) = .object (nested n) :: (tower n).parts := by
    simp [nested, Value.parts, Value.fieldsParts]
  rw [hparts, List.forall_mem_cons]
  refine ⟨List.pairwise_singleton _ _, fun v hv => ?_⟩
  obtain ⟨items, rfl⟩ := parts_tower n v hv
  trivial

def created : Outcome Unit :=
  openOn (.file "db.json" defaultIndent) 64 ∅

def inserted (n : Nat) : Outcome Answer :=
  (Operation.insert "c" "x" (nested n)).perform created.database created.disk

theorem served_inserted (n : Nat) : Served created.database created.disk [.insert "c" "x" (nested n)]
    (inserted n).database (inserted n).disk := by
  have hanswer : (inserted n).answer = .ok .done := rfl
  refine .cons (fun path cause h => ?_) (.nil _ _)
  rw [inserted] at hanswer
  rw [hanswer] at h; cases h

theorem decoded_insert {n : Nat} (hn : n ≤ 125) : ∀ op ∈ [Operation.insert "c" "x" (nested n)], op.Decoded := by
  have hnesting : (nested n).toJson.nesting ≤ Json.maxNesting := by
    rw [nesting_nested]; exact Nat.add_le_add_right hn 2
  exact List.forall_mem_singleton.mpr (Record.exists_parse hnesting (lasting_nested n))

theorem get?_inserted (n : Nat) : (inserted n).database.tree.get? "c" "x" = some (nested n) := by
  have htree : (inserted n).database.tree = (∅ : Tree).put "c" "x" (nested n) := rfl
  rw [htree, Tree.get?_put, if_pos ⟨rfl, rfl⟩]

theorem reopens_nested {n : Nat} (hn : n ≤ 123) : (nested n).Reopens where
  nesting := by rw [nesting_nested]; exact Nat.add_le_add_right hn 2
  floats x hx := lasting_nested n _ hx

/-- A record nested 125 deep comes back. One nested 126 deep is decoded and stored too, and with it the file comes
back empty. -/
theorem reopening_keeps_tree_iff_nested :
    (∅ : Disk).has "db.json" = false ∧ created.answer = .ok () ∧
      (∀ n, Served created.database created.disk [.insert "c" "x" (nested n)]
        (inserted n).database (inserted n).disk) ∧
      (∀ n ≤ 125, ∀ op ∈ [Operation.insert "c" "x" (nested n)], op.Decoded) ∧
      (openOn (.file "db.json" defaultIndent) 64 (inserted 123).disk).database.tree = (inserted 123).database.tree ∧
      (inserted 124).database.tree.get? "c" "x" = some (nested 124) ∧
      (openOn (.file "db.json" defaultIndent) 64 (inserted 124).disk).database.tree = ∅ := by
  have absent : (∅ : Disk).has "db.json" = false := by decide
  refine ⟨absent, rfl, served_inserted, fun n => decoded_insert, ?_, get?_inserted 124, ?_⟩
  · have h := reopening_keeps_tree_iff absent rfl (served_inserted 123) (decoded_insert (by decide)) defaultIndent 64
    exact h.2.1.mpr (Tree.each_empty.put (reopens_nested (Nat.le_refl 123)) "c" "x")
  · have h := reopening_keeps_tree_iff absent rfl (served_inserted 124) (decoded_insert (by decide)) defaultIndent 64
    exact h.2.2 "c" "x" (nested 124) (get?_inserted 124) (by rw [nesting_nested]; decide)

end Database

end DocStore
