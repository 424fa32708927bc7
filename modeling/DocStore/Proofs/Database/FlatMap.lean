import DocStore.Proofs.Database.Operation
import DocStore.Proofs.Text.ByteOrder
import DocStore.Proofs.Tree.Contents
import Mathlib.Data.Finmap
import Mathlib.Data.List.Sort

/-!
# A database as a flat map

`FlatMap.Step` says of each operation what it answers on a finite map from collections and ids to records, and which
map it leaves. A database in memory gives exactly these answers, whatever the operations (`memory_answers_iff`): its
two levels, with collections that come and go, cannot be told from the one level.
-/

namespace DocStore

/-! ## Records that are merged -/

structure Record.Merged (record fields merged : Record) : Prop where
  increasing : merged.Increasing
  get?_eq : ∀ name, merged.get? name = (fields.get? name).or (record.get? name)

theorem Record.merged_merge {record fields : Record} (hr : record.Increasing) (hf : fields.Increasing) :
    Merged record fields (Entries.merge record fields) where
  increasing := hr.merge fields
  get?_eq name := by rw [Entries.get?_merge, hf.last?_eq]

theorem Record.Merged.unique {record fields merged merged' : Record} (h : Merged record fields merged)
    (h' : Merged record fields merged') : merged = merged' :=
  h.increasing.ext h'.increasing fun name => (h.get?_eq name).trans (h'.get?_eq name).symm

/-! ## The flat map -/

abbrev FlatMap := Finmap fun _ : String × String => Record

namespace FlatMap

/-- The entries of one collection; of several under one id the first one counts. -/
def batch (collection : String) (entries : List (String × Record)) : FlatMap :=
  (entries.map fun e => (⟨(collection, e.1), e.2⟩ : Sigma fun _ : String × String => Record)).toFinmap

section
variable (M : FlatMap) (collection : String)

/-- The documents of a collection, by the bytes of their ids. -/
structure Lists (documents : List Document) : Prop where
  ordered : documents.Pairwise fun d e => Text.bytes d.id < Text.bytes e.id
  mem_iff : ∀ d, d ∈ documents ↔ M.lookup (collection, d.id) = some d.fields

structure Names (names : List String) : Prop where
  ordered : names.Pairwise fun a b => Text.bytes a < Text.bytes b
  mem_iff : ∀ name, name ∈ names ↔ ∃ id, (name, id) ∈ M

/-- A flag for each id: false if it is taken, or came before. -/
structure Flags (ids : List String) (flags : List Bool) : Prop where
  length_eq : flags.length = ids.length
  eq_false_iff : ∀ i id, ids[i]? = some id → (flags[i]? = some false ↔ (collection, id) ∈ M ∨ id ∈ ids.take i)

end

inductive Step (maxDepth : Nat) : FlatMap → Operation → Except StoreError Answer → FlatMap → Prop
  | create {M collection id record} : (collection, id) ∉ M →
      Step maxDepth M (.create collection id record) (.ok (.id id)) (M.insert (collection, id) record)
  | createMany {M collection entries} : (entries.map (·.1)).Nodup → (∀ e ∈ entries, (collection, e.1) ∉ M) →
      Step maxDepth M (.createMany collection entries) (.ok (.ids (entries.map (·.1)))) (M ∪ batch collection entries)
  | insert {M collection id record} : (collection, id) ∉ M →
      Step maxDepth M (.insert collection id record) (.ok .done) (M.insert (collection, id) record)
  | duplicate {M collection id record} : (collection, id) ∈ M →
      Step maxDepth M (.insert collection id record) (.error (.refused (.duplicateId collection id))) M
  | insertMany {M collection ids records flags} : ids.length = records.length → M.Flags collection ids flags →
      Step maxDepth M (.insertMany collection ids records) (.ok (.flags flags))
        (M ∪ batch collection (ids.zip records))
  | mismatch {M collection ids records} : ids.length ≠ records.length →
      Step maxDepth M (.insertMany collection ids records)
        (.error (.refused (.lengthMismatch ids.length records.length))) M
  | update {M collection id fields record merged} : M.lookup (collection, id) = some record →
      record.Merged fields merged →
      Step maxDepth M (.update collection id fields) (.ok (.found true)) (M.insert (collection, id) merged)
  | updateAbsent {M collection id fields} : (collection, id) ∉ M →
      Step maxDepth M (.update collection id fields) (.ok (.found false)) M
  | delete {M collection id} :
      Step maxDepth M (.delete collection id) (.ok (.found (decide ((collection, id) ∈ M)))) (M.erase (collection, id))
  | read {M collection id} : Step maxDepth M (.read collection id) (.ok (.record (M.lookup (collection, id)))) M
  | readAll {M collection documents} : M.Lists collection documents →
      Step maxDepth M (.readAll collection) (.ok (.documents documents)) M
  | readWhere {M collection expression documents} : M.Lists collection documents →
      Step maxDepth M (.readWhere collection expression)
        (.ok (.documents (documents.filter fun d => (Query.ofExpression maxDepth expression).accepts d.fields))) M
  | collections {M names} : M.Names names → Step maxDepth M .collections (.ok (.names names)) M

inductive Run (maxDepth : Nat) : FlatMap → List Operation → List (Except StoreError Answer) → FlatMap → Prop
  | nil (M) : Run maxDepth M [] [] M
  | cons {M M' M'' op ops answer answers} : Step maxDepth M op answer M' → Run maxDepth M' ops answers M'' →
      Run maxDepth M (op :: ops) (answer :: answers) M''

/-! ## The map leaves no choice -/

section
variable {M M' M'' : FlatMap} {collection : String}

theorem eq_of_bytes_ordered {α : Type} (name : α → String) {l l' : List α}
    (h : l.Pairwise fun a b => Text.bytes (name a) < Text.bytes (name b))
    (h' : l'.Pairwise fun a b => Text.bytes (name a) < Text.bytes (name b)) (hmem : ∀ a, a ∈ l ↔ a ∈ l') : l = l' := by
  have : Std.Irrefl fun a b : α => Text.bytes (name a) < Text.bytes (name b) := ⟨fun a => List.lt_irrefl _⟩
  have : Std.Antisymm fun a b : α => Text.bytes (name a) < Text.bytes (name b) :=
    ⟨fun a b hab hba => absurd hba (List.lt_asymm hab)⟩
  exact h.eq_of_mem_iff h' hmem

theorem Lists.unique {documents documents' : List Document} (h : M.Lists collection documents)
    (h' : M.Lists collection documents') : documents = documents' :=
  eq_of_bytes_ordered Document.id h.ordered h'.ordered fun d => (h.mem_iff d).trans (h'.mem_iff d).symm

theorem Names.unique {names names' : List String} (h : M.Names names) (h' : M.Names names') : names = names' :=
  eq_of_bytes_ordered id h.ordered h'.ordered fun name => (h.mem_iff name).trans (h'.mem_iff name).symm

theorem Flags.unique {ids : List String} {flags flags' : List Bool} (h : M.Flags collection ids flags)
    (h' : M.Flags collection ids flags') : flags = flags' := by
  refine List.ext_getElem (h.length_eq.trans h'.length_eq.symm) fun i hi hi' => ?_
  have hlt : i < ids.length := h.length_eq ▸ hi
  have hid : ids[i]? = some ids[i] := List.getElem?_eq_getElem hlt
  have hiff := (h.eq_false_iff i _ hid).trans (h'.eq_false_iff i _ hid).symm
  rw [List.getElem?_eq_getElem hi, List.getElem?_eq_getElem hi', Option.some_inj, Option.some_inj] at hiff
  exact Bool.eq_iff_iff.mpr (by simpa using not_congr hiff)

theorem Step.unique {maxDepth : Nat} {op : Operation} {answer answer' : Except StoreError Answer}
    (h : Step maxDepth M op answer M') (h' : Step maxDepth M op answer' M'') : answer = answer' ∧ M' = M'' := by
  cases h with
  | create => cases h'; exact ⟨rfl, rfl⟩
  | createMany => cases h'; exact ⟨rfl, rfl⟩
  | insert hfree =>
    cases h' with
    | insert => exact ⟨rfl, rfl⟩
    | duplicate htaken => exact absurd htaken hfree
  | duplicate htaken =>
    cases h' with
    | insert hfree => exact absurd htaken hfree
    | duplicate => exact ⟨rfl, rfl⟩
  | insertMany hlength hflags =>
    cases h' with
    | insertMany _ hflags' => rw [hflags.unique hflags']; exact ⟨rfl, rfl⟩
    | mismatch hlength' => exact absurd hlength hlength'
  | mismatch hlength =>
    cases h' with
    | insertMany hlength' => exact absurd hlength' hlength
    | mismatch => exact ⟨rfl, rfl⟩
  | update hrecord hmerged =>
    cases h' with
    | update hrecord' hmerged' =>
      rw [hrecord] at hrecord'
      cases hrecord'; rw [hmerged.unique hmerged']; exact ⟨rfl, rfl⟩
    | updateAbsent hfree => exact absurd (Finmap.mem_of_lookup_eq_some hrecord) hfree
  | updateAbsent hfree =>
    cases h' with
    | update hrecord => exact absurd (Finmap.mem_of_lookup_eq_some hrecord) hfree
    | updateAbsent => exact ⟨rfl, rfl⟩
  | delete => cases h'; exact ⟨rfl, rfl⟩
  | read => cases h'; exact ⟨rfl, rfl⟩
  | readAll hlists => cases h' with | readAll hlists' => rw [hlists.unique hlists']; exact ⟨rfl, rfl⟩
  | readWhere hlists => cases h' with | readWhere hlists' => rw [hlists.unique hlists']; exact ⟨rfl, rfl⟩
  | collections hnames => cases h' with | collections hnames' => rw [hnames.unique hnames']; exact ⟨rfl, rfl⟩

theorem Run.unique {maxDepth : Nat} {ops : List Operation} {answers answers' : List (Except StoreError Answer)}
    (h : Run maxDepth M ops answers M') (h' : Run maxDepth M ops answers' M'') : answers = answers' ∧ M' = M'' := by
  induction h generalizing answers' with
  | nil => cases h'; exact ⟨rfl, rfl⟩
  | cons hstep _ ih =>
    cases h' with
    | cons hstep' hrun' =>
      obtain ⟨rfl, rfl⟩ := hstep.unique hstep'
      obtain ⟨rfl, rfl⟩ := ih hrun'
      exact ⟨rfl, rfl⟩

end

/-! ## Look-ups -/

section
variable (M N : FlatMap) (collection collection' id id' : String) (record : Record)

theorem lookup_insert_eq : (M.insert (collection, id) record).lookup (collection', id') =
    if collection' = collection ∧ id' = id then some record else M.lookup (collection', id') := by
  by_cases h : collection' = collection ∧ id' = id
  · obtain ⟨rfl, rfl⟩ := h; simp
  · rw [if_neg h, Finmap.lookup_insert_of_ne M (by simpa using h)]

theorem lookup_erase_eq : (M.erase (collection, id)).lookup (collection', id') =
    if collection' = collection ∧ id' = id then none else M.lookup (collection', id') := by
  by_cases h : collection' = collection ∧ id' = id
  · obtain ⟨rfl, rfl⟩ := h; simp
  · rw [if_neg h, Finmap.lookup_erase_ne (by simpa using h)]

theorem lookup_union_eq : (M ∪ N).lookup (collection, id) =
    (M.lookup (collection, id)).or (N.lookup (collection, id)) := by
  by_cases h : (collection, id) ∈ M
  · obtain ⟨old, hold⟩ := Finmap.mem_iff.mp h
    rw [Finmap.lookup_union_left h, hold]; rfl
  · rw [Finmap.lookup_union_right h, Finmap.lookup_eq_none.mpr h]; rfl

theorem lookup_batch (entries : List (String × Record)) : (batch collection entries).lookup (collection', id) =
    if collection' = collection then Entries.get? id entries else none := by
  unfold batch
  rw [Finmap.dlookup_list_toFinmap]
  induction entries with
  | nil => simp
  | cons e entries ih =>
    obtain ⟨k, record⟩ := e
    rw [List.map_cons, Entries.get?_cons]
    by_cases h : collection' = collection ∧ k = id
    · obtain ⟨rfl, rfl⟩ := h; simp
    · have hne : (collection', id) ≠ (collection, k) := by
        intro heq; cases heq; exact h ⟨rfl, rfl⟩
      rw [List.dlookup_cons_ne _ _ hne, ih]
      by_cases hc : collection' = collection
      · have hk : k ≠ id := fun hk => h ⟨hc, hk⟩
        simp [hc, hk]
      · simp [hc]

variable {M collection id} in
theorem mem_batch {entries : List (String × Record)} (h : (collection', id) ∈ batch collection entries) :
    id ∈ entries.map (·.1) := by
  obtain ⟨record, hr⟩ := Finmap.mem_iff.mp h
  rw [lookup_batch] at hr
  split at hr
  · exact List.mem_map_of_mem (Entries.mem_of_get? hr)
  · cases hr

end

end FlatMap

/-! ## Trees -/

namespace Tree

def Shows (t : Tree) (M : FlatMap) : Prop :=
  ∀ collection id, M.lookup (collection, id) = t.get? collection id

namespace Shows

variable {t : Tree} {M : FlatMap} (h : t.Shows M)
include h

theorem mem_iff (collection id : String) : (collection, id) ∈ M ↔ t.get? collection id ≠ none := by
  rw [← h, Ne, Finmap.lookup_eq_none, not_not]

theorem put (collection id : String) (record : Record) :
    (t.put collection id record).Shows (M.insert (collection, id) record) := by
  intro collection' id'
  rw [FlatMap.lookup_insert_eq, get?_put, h]

theorem remove (collection id : String) : (t.remove collection id).Shows (M.erase (collection, id)) := by
  intro collection' id'
  rw [FlatMap.lookup_erase_eq, get?_remove, h]

theorem insertEach (collection : String) (entries : List (String × Record)) :
    (t.insertEach collection entries).1.Shows (M ∪ FlatMap.batch collection entries) := by
  intro collection' id
  rw [FlatMap.lookup_union_eq, FlatMap.lookup_batch, get?_insertEach, h]
  by_cases hc : collection' = collection
  · rw [if_pos hc, if_pos hc, hc]
  · rw [if_neg hc, if_neg hc, Option.or_none]

theorem putAll {collection : String} {entries : List (String × Record)} (hn : (entries.map (·.1)).Nodup)
    (hfree : ∀ e ∈ entries, (collection, e.1) ∉ M) :
    (t.putAll collection entries).Shows (M ∪ FlatMap.batch collection entries) := by
  intro collection' id
  rw [FlatMap.lookup_union_eq, FlatMap.lookup_batch, get?_putAll _ _ hn, h]
  by_cases hc : collection' = collection
  · rw [if_pos hc, if_pos hc, hc]
    cases hid : Entries.get? id entries with
    | none => rw [Option.or_none, Option.none_or]
    | some record =>
      -- a new id has no record yet, so it does not matter which side comes first
      have hnone : t.get? collection id = none := by
        have := hfree _ (Entries.mem_of_get? hid)
        rwa [h.mem_iff, not_not] at this
      rw [hnone]; rfl
  · rw [if_neg hc, if_neg hc, Option.or_none]

theorem lists (collection : String) : M.Lists collection (Database.documents (t.records collection)) where
  ordered := by
    unfold Database.documents
    refine List.pairwise_map.mpr ((t.collection collection).increasing.imp fun hlt => ?_)
    exact Text.bytes_lt_iff.mpr hlt
  mem_iff d := by
    rw [h, ← t.mem_records_iff, Database.documents, List.mem_map]
    constructor
    · rintro ⟨e, he, rfl⟩; exact he
    · intro he; exact ⟨_, he, rfl⟩

theorem names (hfilled : t.Filled) : M.Names t.names where
  ordered := List.pairwise_map.mpr (t.collections.increasing.imp fun hlt => Text.bytes_lt_iff.mpr hlt)
  mem_iff name := by
    rw [mem_names_iff name hfilled]
    exact exists_congr fun id => (h.mem_iff name id).symm

theorem flags {collection : String} {ids : List String} {records : List Record} (hlength : ids.length = records.length) :
    M.Flags collection ids (t.insertEach collection (ids.zip records)).2 := by
  refine ⟨length_insertEach_zip t collection hlength, fun i id hid => ?_⟩
  rw [insertEach_zip_eq_false_iff t collection hlength hid, h.mem_iff]

end Shows

end Tree

/-! ## Operations -/

namespace Operation

def generated : Operation → List String
  | create _ id _ => [id]
  | createMany _ entries => entries.map (·.1)
  | _ => []

def chosen : Operation → List String
  | insert _ id _ => [id]
  | insertMany _ ids _ => ids
  | _ => []

/-- No id is drawn twice, and none that a caller chooses. -/
structure NewIds (ops : List Operation) : Prop where
  nodup : (ops.flatMap generated).Nodup
  not_chosen : ∀ id ∈ ops.flatMap generated, id ∉ ops.flatMap chosen

section
variable {op : Operation} {ops : List Operation} (h : NewIds (op :: ops))
include h

theorem NewIds.tail : NewIds ops where
  nodup := (List.nodup_append.mp h.nodup).2.1
  not_chosen id hid hchosen := h.not_chosen id (List.mem_append_right _ hid) (List.mem_append_right _ hchosen)

theorem NewIds.head_nodup : op.generated.Nodup :=
  (List.nodup_append.mp h.nodup).1

theorem NewIds.not_mem_tail {id : String} (hid : id ∈ op.generated ∨ id ∈ op.chosen) :
    id ∉ ops.flatMap generated := by
  intro htail
  rcases hid with hid | hid
  · exact (List.nodup_append.mp h.nodup).2.2 id hid id htail rfl
  · exact h.not_chosen id (List.mem_append_right _ htail) (List.mem_append_left _ hid)

end

end Operation

theorem FlatMap.Step.mem {maxDepth : Nat} {M M' : FlatMap} {op : Operation} {answer : Except StoreError Answer}
    (h : Step maxDepth M op answer M') {collection id : String} (hid : (collection, id) ∈ M') :
    (collection, id) ∈ M ∨ id ∈ op.generated ∨ id ∈ op.chosen := by
  cases h with
  | create | insert =>
    rcases Finmap.mem_insert.mp hid with heq | hid
    · cases heq; simp [Operation.generated, Operation.chosen]
    · exact .inl hid
  | createMany =>
    rcases Finmap.mem_union.mp hid with hid | hid
    · exact .inl hid
    · exact .inr (.inl (mem_batch _ hid))
  | insertMany hlength =>
    rcases Finmap.mem_union.mp hid with hid | hid
    · exact .inl hid
    · refine .inr (.inr ?_)
      have hmem := mem_batch _ hid
      rwa [List.map_fst_zip (Nat.le_of_eq hlength)] at hmem
  | update hrecord =>
    rcases Finmap.mem_insert.mp hid with heq | hid
    · cases heq; exact .inl (Finmap.mem_of_lookup_eq_some hrecord)
    · exact .inl hid
  | delete => exact .inl (Finmap.mem_erase.mp hid).2
  | _ => exact .inl hid

/-- Each operation on the tree is the one on the flat map. -/
theorem Tree.Shows.step {db : Database} {M : FlatMap} (h : db.tree.Shows M) (hfilled : db.tree.Filled)
    (hordered : db.tree.Each Entries.Increasing) {op : Operation} (hrecords : ∀ record ∈ op.records, record.Increasing)
    (hnodup : op.generated.Nodup) (hfree : ∀ collection, ∀ id ∈ op.generated, (collection, id) ∉ M) :
    ∃ M', FlatMap.Step db.maxDepth M op ((op.change db).answer.mapError .refused) M' ∧ (op.change db).tree.Shows M' := by
  cases op with
  | create collection id record =>
    exact ⟨_, .create (hfree collection id (List.mem_singleton_self id)), h.put collection id record⟩
  | createMany collection entries =>
    have hnew : ∀ e ∈ entries, (collection, e.1) ∉ M := fun e he => hfree collection e.1 (List.mem_map_of_mem he)
    exact ⟨_, .createMany hnodup hnew, h.putAll hnodup hnew⟩
  | insert collection id record =>
    simp only [Operation.change, Tree.insert]
    split
    · rename_i hid
      exact ⟨M, .duplicate ((h.mem_iff collection id).mpr (Option.isSome_iff_ne_none.mp hid)), h⟩
    · rename_i hid
      refine ⟨_, .insert ?_, h.put collection id record⟩
      rw [h.mem_iff]; simpa using hid
  | insertMany collection ids records =>
    simp only [Operation.change, Tree.insertMany]
    split
    · rename_i hlength
      exact ⟨_, .insertMany hlength (h.flags hlength), h.insertEach collection (ids.zip records)⟩
    · rename_i hlength
      exact ⟨M, .mismatch hlength, h⟩
  | update collection id fields =>
    simp only [Operation.change, Tree.update]
    split
    · rename_i hid
      refine ⟨M, .updateAbsent ?_, h⟩
      rw [h.mem_iff]; simpa using hid
    · rename_i record hid
      have hmerged := Record.merged_merge (hordered collection id record hid)
        (hrecords fields (List.mem_singleton_self fields))
      exact ⟨_, .update ((h collection id).trans hid) hmerged, h.put collection id _⟩
  | delete collection id =>
    have hfound : (db.tree.get? collection id).isSome = decide ((collection, id) ∈ M) := by
      rw [Bool.eq_iff_iff, decide_eq_true_iff, h.mem_iff, Option.isSome_iff_ne_none]
    simp only [Operation.change, Tree.delete, hfound]
    exact ⟨_, .delete, h.remove collection id⟩
  | read collection id =>
    have hread : db.read collection id = M.lookup (collection, id) := (h collection id).symm
    simp only [Operation.change, hread]
    exact ⟨M, .read, h⟩
  | readAll collection => exact ⟨M, .readAll (h.lists collection), h⟩
  | readWhere collection expression =>
    have hfilter : db.readWhere collection expression = (Database.documents (db.tree.records collection)).filter
        fun d => (Query.ofExpression db.maxDepth expression).accepts d.fields := by
      unfold Database.readWhere Database.documents
      rw [List.filter_map]; rfl
    simp only [Operation.change, hfilter]
    exact ⟨M, .readWhere (h.lists collection), h⟩
  | collections => exact ⟨M, .collections (h.names hfilled), h⟩

/-! ## Runs -/

namespace Database

theorem exists_run {db : Database} (hmemory : db.medium = .memory) {M : FlatMap} (h : db.tree.Shows M)
    (hfilled : db.tree.Filled) (hordered : db.tree.Each Entries.Increasing) {ops : List Operation}
    (hnew : Operation.NewIds ops) (hrecords : ∀ op ∈ ops, ∀ record ∈ op.records, record.Increasing)
    (hfree : ∀ collection, ∀ id ∈ ops.flatMap Operation.generated, (collection, id) ∉ M) (disk : Disk) :
    ∃ M', FlatMap.Run db.maxDepth M ops (db.answers disk ops) M' := by
  induction ops generalizing db M with
  | nil => exact ⟨M, .nil M⟩
  | cons op ops ih =>
    obtain ⟨hop, hops⟩ := List.forall_mem_cons.mp hrecords
    obtain ⟨M₁, hstep, hshows⟩ := h.step hfilled hordered hop hnew.head_nodup
      fun collection id hid => hfree collection id (List.mem_append_left _ hid)
    have hfilled' := Tree.kept_filled.change hfilled fun record (_ : record ∈ op.records) => trivial
    have hordered' := (Tree.kept_each fun hr _ => hr.merge _).change hordered hop
    have hfree' : ∀ collection, ∀ id ∈ ops.flatMap Operation.generated, (collection, id) ∉ M₁ := by
      intro collection id hid hmem
      rcases hstep.mem hmem with hmem | hmem
      · exact hfree collection id (List.mem_append_right _ hid) hmem
      · exact hnew.not_mem_tail hmem hid
    have hmemory' : ({ db with tree := (op.change db).tree } : Database).medium = .memory := hmemory
    obtain ⟨M', hrun⟩ := ih hmemory' hshows hfilled' hordered' hnew.tail hops hfree'
    refine ⟨M', ?_⟩
    rw [answers, perform_memory hmemory]
    exact .cons hstep hrun

/-- A database in memory that starts out empty gives the answers of the flat map and no others, as long as the ids
that are drawn for new records are new. -/
theorem memory_answers_iff (maxDepth : Nat) (disk : Disk) {ops : List Operation} (new : Operation.NewIds ops)
    (ordered : ∀ op ∈ ops, ∀ record ∈ op.records, record.Increasing) (answers : List (Except StoreError Answer)) :
    answers = Database.answers ⟨∅, .memory, maxDepth⟩ disk ops ↔ ∃ M, FlatMap.Run maxDepth ∅ ops answers M := by
  have hmemory : (⟨∅, .memory, maxDepth⟩ : Database).medium = .memory := rfl
  have hshows : (∅ : Tree).Shows ∅ := fun collection id => Finmap.lookup_empty _
  obtain ⟨M, hrun⟩ := exists_run hmemory hshows Tree.filled_empty Tree.each_empty new ordered
    (fun collection id _ => Finmap.notMem_empty) disk
  constructor
  · rintro rfl; exact ⟨M, hrun⟩
  · rintro ⟨M', hrun'⟩; exact (hrun'.unique hrun).1

/-- A batch with an id that comes twice, operations on ids that are taken and absent, and a collection that goes. -/
def session : List Operation :=
  [.insertMany "c" ["é", "z", "é"] [[("n", .int 1)], [], [("n", .int 3)]], .create "c" "$0" [("n", .int 4)],
    .insert "c" "z" [], .update "c" "z" [("n", .int 4)], .readAll "c", .insertMany "c" ["x"] [], .insert "d" "x" [],
    .delete "d" "x", .update "d" "x" [], .read "c" "é", .collections]

theorem memory_answers_iff_session :
    Operation.NewIds session ∧ (∀ op ∈ session, ∀ record ∈ op.records, record.Increasing) ∧
      ∃ M, FlatMap.Run 64 ∅ session [.ok (.flags [true, true, false]), .ok (.id "$0"),
        .error (.refused (.duplicateId "c" "z")), .ok (.found true),
        .ok (.documents [⟨"$0", [("n", .int 4)]⟩, ⟨"z", [("n", .int 4)]⟩, ⟨"é", [("n", .int 1)]⟩]),
        .error (.refused (.lengthMismatch 1 0)), .ok .done, .ok (.found true), .ok (.found false),
        .ok (.record (some [("n", .int 1)])), .ok (.names ["c"])] M := by
  have new : Operation.NewIds session := ⟨by decide, by decide⟩
  have ordered : ∀ op ∈ session, ∀ record ∈ op.records, record.Increasing := by decide +kernel
  exact ⟨new, ordered, (memory_answers_iff 64 ∅ new ordered _).mp rfl⟩

end Database

end DocStore
