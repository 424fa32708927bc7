import DocStore.Proofs.Database.OneRecord
import DocStore.Proofs.Tree.Source
import DocStore.Proofs.Value.Integers

/-!
# Integers of other records

Every operation on one record writes the whole file again, and with it the numbers of all other records. An integer in
such a record that fits into 64 bits with sign is the same number in the new file (`integers_elsewhere_kept`). A larger
one is a double in memory, and the new file has the printed form of that double.
-/

namespace DocStore

open Json (Source Literal NumberAt renderFloat)

/-! ## Trees and texts -/

namespace Tree

/-- Where the text has an integer in a record, the tree has what the integer is read as. -/
def Spelled (t : Tree) (text : String) : Prop :=
  ∀ collection id place lit n, NumberAt text (.field collection :: .field id :: place) lit → lit.integer? = some n →
    ∃ record v, t.get? collection id = some record ∧ (Value.object record).at? place = some v ∧
      (Source.number lit).value? = some v

variable {t : Tree}

theorem spelled_of_parse {text : String} (h : parse text = .ok t) : t.Spelled text := by
  intro collection id place lit n hlit _
  obtain ⟨src, hsays, hvalue⟩ := says_of_parse h
  obtain ⟨src', hsays', hlit⟩ := hlit
  cases hsays'.unique hsays
  obtain ⟨v, hv, hat⟩ := Source.value?_at hvalue hlit
  rw [at?_toValue] at hat
  obtain ⟨record, hrecord, hat⟩ := Option.bind_eq_some_iff.mp hat
  exact ⟨record, v, hrecord, hat, hv⟩

theorem spelled_encode (hordered : t.Each Record.Ordered) (indent : Nat) : t.Spelled (t.encode indent) := by
  intro collection id place lit n hlit hn
  obtain ⟨src, hsays, hlit⟩ := hlit
  cases hsays.unique (says_encode indent t)
  rw [at?_source (hordered collection id)] at hlit
  obtain ⟨v, hv, hlit⟩ := Option.map_eq_some_iff.mp hlit
  obtain ⟨record, hrecord, hat⟩ := Option.bind_eq_some_iff.mp hv
  exact ⟨record, v, hrecord, hat, Value.value?_of_source hlit hn⟩

theorem Spelled.of_get? {t' : Tree} {text : String} (h : t.Spelled text)
    (hget : ∀ collection id, t'.get? collection id = t.get? collection id) : t'.Spelled text := by
  intro collection id place lit n hlit hn
  rw [hget]
  exact h collection id place lit n hlit hn

end Tree

/-! ## Databases on a file -/

theorem Tree.kept_ordered : Tree.Kept (Tree.Each Record.Ordered) Record.Ordered :=
  Tree.kept_each Record.Ordered.merge

namespace Database

structure Current (db : Database) (path : String) (indent : Nat) (disk : Disk) : Prop where
  medium : db.medium = .file path indent
  ordered : db.tree.Each Record.Ordered
  spelled : ∃ text, disk.read path = .ok text ∧ db.tree.Spelled text

variable {db db' : Database} {path : String} {indent : Nat} {disk disk' : Disk}

theorem openOn_of_decodes {text : String} {tree : Tree} (present : disk.has path = true)
    (readable : disk.read path = .ok text) (decodes : Tree.parse text = .ok tree) (maxDepth : Nat) :
    openOn (.file path indent) maxDepth disk = ⟨.ok (), ⟨tree, .file path indent, maxDepth⟩, disk⟩ := by
  have htree : Tree.ofText text = tree := by rw [Tree.ofText, decodes]; rfl
  rw [openOn, reload_of_read rfl present readable, htree]

theorem current_of_decodes {text : String} (readable : disk.read path = .ok text)
    (decodes : Tree.parse text = .ok db.tree) (hmedium : db.medium = .file path indent) :
    db.Current path indent disk where
  medium := hmedium
  ordered := Tree.ordered_of_parse decodes
  spelled := ⟨text, readable, Tree.spelled_of_parse decodes⟩

theorem Current.perform {op : Operation} (h : db.Current path indent disk)
    (hrecords : ∀ record ∈ op.records, record.Ordered) (hstored : (op.perform db disk).Stored) :
    (op.perform db disk).database.Current path indent (op.perform db disk).disk := by
  rw [op.perform_eq_commit] at hstored ⊢
  have hordered : (op.change db).tree.Each Record.Ordered := Tree.kept_ordered.change h.ordered hrecords
  refine ⟨by rw [commit_database]; exact h.medium, by rw [commit_database]; exact hordered, ?_⟩
  cases hk : (op.change db).keep with
  | false =>
    -- the file is the old one, and so is each record
    obtain ⟨text, hread, hspelled⟩ := h.spelled
    rw [commit_database, commit_disk_of_not_keep hk]
    exact ⟨text, hread, hspelled.of_get? (Operation.get?_of_not_kept hk)⟩
  | true =>
    cases ha : (op.change db).answer with
    | error refusal => rw [Operation.keep_of_refused ha] at hk; cases hk
    | ok a =>
      have hwritten := written_of_kept ha hk hstored
      simp only [Written, commit_database, h.medium] at hwritten
      rw [commit_database]
      exact ⟨_, hwritten.2, Tree.spelled_encode hordered indent⟩

/-- No operation comes between the integers of the tree and those of its file. -/
theorem Current.served {ops : List Operation} (h : db.Current path indent disk) (served : Served db disk ops db' disk')
    (hrecords : ∀ op ∈ ops, ∀ record ∈ op.records, record.Ordered) : db'.Current path indent disk' := by
  induction served with
  | nil => exact h
  | @cons db db' disk disk' op ops hstored hrest ih =>
    obtain ⟨hop, hops⟩ := List.forall_mem_cons.mp hrecords
    exact ih (h.perform hop hstored) hops

/-- The file after an operation on one record has the integers of all others. -/
theorem integers_elsewhere_kept {disk₀ : Disk} {text₀ : String} {tree₀ : Tree} {maxDepth : Nat}
    (present : disk₀.has path = true) (readable : disk₀.read path = .ok text₀) (decodes : Tree.parse text₀ = .ok tree₀)
    {ops : List Operation}
    (served : Served (openOn (.file path indent) maxDepth disk₀).database
      (openOn (.file path indent) maxDepth disk₀).disk ops db disk)
    (ordered : ∀ op ∈ ops, ∀ record ∈ op.records, record.Ordered)
    {op : Operation} {key : String × String} (hkey : op.key? = some key) {answer : Answer}
    (success : (op.perform db disk).answer = .ok answer) (hfound : answer ≠ .found false) :
    ∃ text text', disk.read path = .ok text ∧ (op.perform db disk).disk.read path = .ok text' ∧
      ∀ collection id place lit n, (collection, id) ≠ key →
        NumberAt text (.field collection :: .field id :: place) lit → lit.integer? = some n →
        ∃ lit', NumberAt text' (.field collection :: .field id :: place) lit' ∧ (Fits n → lit'.Denotes n) ∧
          (¬ Fits n → ∃ x, (Source.number lit).value? = some (.float x) ∧ lit'.written = renderFloat x) := by
  rw [openOn_of_decodes present readable decodes] at served
  have opened : Current ⟨tree₀, .file path indent, maxDepth⟩ path indent disk₀ :=
    current_of_decodes readable decodes rfl
  have current := opened.served served ordered
  obtain ⟨text, hread, hspelled⟩ := current.spelled
  have hstored : (op.perform db disk).Stored := by
    intro path cause h
    rw [success] at h; cases h
  rw [op.perform_eq_commit] at success hstored ⊢
  have hanswer := answer_of_commit success
  have hwritten := written_of_kept hanswer (Operation.keep_of_success hkey hanswer hfound) hstored
  simp only [Written, commit_database, current.medium] at hwritten
  refine ⟨text, _, hread, hwritten.2, ?_⟩
  intro collection id place lit n hother hlit hn
  -- the literal was read as a value of the tree, which is still there and is what is written
  obtain ⟨record, v, hrecord, hat, hv⟩ := hspelled collection id place lit n hlit hn
  obtain ⟨lit', hsource, hfits, hlarge⟩ := (Value.read_of_integer? hn hv).written
  have hget := @Operation.get?_change_of_key op db key hkey collection id hother
  refine ⟨lit', ⟨_, Tree.says_encode indent _, ?_⟩, hfits, ?_⟩
  · rw [Tree.at?_source (by rw [hget]; exact current.ordered collection id), hget, hrecord, Option.bind_some, hat]
    exact congrArg some hsource
  · intro hn
    obtain ⟨x, rfl, hwritten⟩ := hlarge hn
    exact ⟨x, hv, hwritten⟩

/-! ### One number in a file -/

def oneNumber (digits : String) : String :=
  "\x7b\"a\":\x7b\"x\":\x7b\"n\":" ++ digits ++ "\x7d\x7d\x7d"

def numberPlace : List Value.Step :=
  [.field "a", .field "x", .field "n"]

def numberFile (digits : String) : Disk :=
  (∅ : Disk).set ["db.json"] (.file (oneNumber digits).toUTF8)

def numberOpened (digits : String) : Outcome Unit :=
  openOn (.file "db.json" defaultIndent) 64 (numberFile digits)

def besideNumber (digits : String) : Outcome Answer :=
  (Operation.insert "b" "y" []).perform (numberOpened digits).database (numberOpened digits).disk

theorem answer_eq_done {outcome : Outcome Answer} (h : (outcome.answer matches .ok .done) = true) :
    outcome.answer = .ok .done := by
  split at h
  · assumption
  · cases h

def greatest : String := "9223372036854775807"

/-- The greatest integer that fits stays what it is. -/
theorem integers_elsewhere_kept_greatest :
    (numberFile greatest).has "db.json" = true ∧ (numberFile greatest).read "db.json" = .ok (oneNumber greatest) ∧
      (Tree.parse (oneNumber greatest)).toOption.isSome = true ∧ (besideNumber greatest).answer = .ok .done ∧
      NumberAt (oneNumber greatest) numberPlace (Json.wholeLiteral false 9223372036854775807) ∧
      ∃ text' lit', (besideNumber greatest).disk.read "db.json" = .ok text' ∧ NumberAt text' numberPlace lit' ∧
        lit'.Denotes 9223372036854775807 := by
  have present : (numberFile greatest).has "db.json" = true := by decide +kernel
  have readable : (numberFile greatest).read "db.json" = .ok (oneNumber greatest) := by rfl
  have decodes : (Tree.parse (oneNumber greatest)).toOption.isSome = true := by decide +kernel
  have success : (besideNumber greatest).answer = .ok .done := answer_eq_done (by decide +kernel)
  have hold : NumberAt (oneNumber greatest) numberPlace (Json.wholeLiteral false 9223372036854775807) :=
    Json.numberAt_of_read 3 (by decide +kernel)
  refine ⟨present, readable, decodes, success, hold, ?_⟩
  obtain ⟨tree, htree⟩ := Option.isSome_iff_exists.mp decodes
  have hparse := ok_of_toOption htree
  have served : Served (openOn (.file "db.json" defaultIndent) 64 (numberFile greatest)).database
      (openOn (.file "db.json" defaultIndent) 64 (numberFile greatest)).disk [] (numberOpened greatest).database
      (numberOpened greatest).disk := .nil _ _
  obtain ⟨text, text', hread, hread', hkept⟩ :=
    integers_elsewhere_kept present readable hparse served (List.forall_mem_nil _) rfl success nofun
  have hdisk : (numberOpened greatest).disk = numberFile greatest := by
    rw [numberOpened, openOn_of_decodes present readable hparse]
  rw [hdisk, readable] at hread
  cases hread
  obtain ⟨lit', hlit, hfits, -⟩ := hkept "a" "x" [.field "n"] _ _ (by decide) hold (Json.integer?_wholeLiteral _ _)
  exact ⟨text', lit', hread', hlit, hfits (by decide)⟩

def beyond : String := "9223372036854775809"

def roundedFile : String :=
  "\x7b\n    \"a\": \x7b\n        \"x\": \x7b\n            \"n\": 9.223372036854776e+18\n        \x7d\n    \x7d,\n" ++
    "    \"b\": \x7b\n        \"y\": \x7b\x7d\n    \x7d\n\x7d"

/-- An integer that does not fit is another number after that. -/
theorem integer_elsewhere_rounded :
    (numberFile beyond).has "db.json" = true ∧
      (numberFile beyond).read "db.json" = .ok (oneNumber beyond) ∧
      (Tree.parse (oneNumber beyond)).toOption.isSome = true ∧ (besideNumber beyond).answer = .ok .done ∧
      NumberAt (oneNumber beyond) numberPlace (Json.wholeLiteral false 9223372036854775809) ∧
      (Json.wholeLiteral false 9223372036854775809).integer? = some 9223372036854775809 ∧
      (besideNumber beyond).disk.read "db.json" = .ok roundedFile ∧
      ∀ lit', NumberAt roundedFile numberPlace lit' → ¬ lit'.Denotes 9223372036854775809 := by
  have success : (besideNumber beyond).answer = .ok .done := answer_eq_done (by decide +kernel)
  have hread : ((besideNumber beyond).disk.read "db.json").toOption = some roundedFile := by decide +kernel
  refine ⟨by decide +kernel, rfl, by decide +kernel, success, Json.numberAt_of_read 3 (by decide +kernel),
    Json.integer?_wholeLiteral .., ok_of_toOption hread, fun lit' hlit' => ?_⟩
  have hrounded : NumberAt roundedFile numberPlace
      ⟨false, ['9'], "223372036854776".toList, some (false, ['1', '8']), true⟩ :=
    Json.numberAt_of_read 3 (by decide +kernel)
  rw [hlit'.unique hrounded]
  decide

end Database

end DocStore
