import DocStore.Proofs.Value.Rereading
import DocStore.Record

/-!
# Records that were read

Whatever the text, a record that is read from it is tidy: its objects are in order and it holds no timestamp. Only its
doubles may still differ from what their printed forms say.
-/

namespace DocStore

/-! ## What readers yield -/

namespace Json

def Yields {α : Type} (item : Reader α) (p : α → Prop) : Prop :=
  ∀ s taken, item s = .ok taken → p taken.value

section
variable {α β : Type} {item : Reader α} {p : α → Prop}

theorem Yields.map (f : α → β) {q : β → Prop} (h : Yields item p) (hf : ∀ a, p a → q (f a)) :
    Yields (fun s => (item s).map (·.map f)) q := by
  intro s taken ht
  dsimp only at ht
  cases hs : item s with
  | error fault => rw [hs] at ht; cases ht
  | ok t => rw [hs] at ht; cases ht; exact hf _ (h s t hs)

theorem readItems_yields (h : Yields item p) {first : Bool} {s : List Char} {taken : Taken (List α) s}
    (ht : readItems item first s = .ok taken) : ∀ v ∈ taken.value, p v := by
  -- on the length of the text, which each item shortens
  induction hn : s.length using Nat.strongRecOn generalizing first s with
  | _ n ih =>
    rw [readItems] at ht
    cases hnext : Shape.list.next first s with
    | error fault => rw [hnext] at ht; cases ht
    | ok next =>
      rw [hnext] at ht
      cases next with
      | done rest hlt => cases ht; exact List.forall_mem_nil _
      | item start hle =>
        simp only [bind, Except.bind] at ht
        cases hv : item start with
        | error fault => rw [hv] at ht; cases ht
        | ok v =>
          rw [hv] at ht
          cases hothers : readItems item false v.rest with
          | error fault => simp only [hothers] at ht; cases ht
          | ok others =>
            simp only [hothers] at ht
            cases ht
            have hlt := v.shorter
            exact List.forall_mem_cons.mpr ⟨h start v hv, ih _ (by omega) hothers rfl⟩

theorem readArrayOf_yields {item : Nat → Reader α} (h : ∀ depth, Yields (item depth) p) (depth : Nat) :
    Yields (readArrayOf item depth) fun vs => ∀ v ∈ vs, p v := by
  intro s taken ht
  unfold readArrayOf at ht
  split at ht
  · cases ht
  · split at ht
    · cases depth with
      | zero => cases ht
      | succ depth =>
        rename_i c rest hskip hc
        cases hitems : readItems (item depth) true rest with
        | error fault => simp only [hitems] at ht; cases ht
        | ok items =>
          have hall := readItems_yields (h depth) hitems
          simp only [hitems] at ht
          cases ht; exact hall
    · cases ht

theorem readAll_yields (h : Yields item p) {text : String} {v : α} (hv : readAll item text = .ok v) : p v := by
  unfold readAll at hv
  dsimp only at hv
  cases ht : item text.toList with
  | error fault => rw [ht] at hv; cases hv
  | ok taken =>
    rw [ht] at hv
    dsimp only at hv
    split at hv
    · cases hv; exact h _ taken ht
    · cases hv

end

end Json

/-! ## Tidy values -/

namespace Value

/-- The value itself, apart from what it holds, can have been read. -/
def Tidy : Value → Prop
  | time _ => False
  | object fields => Entries.Increasing fields
  | _ => True

theorem lasting_iff {v : Value} : v.Lasting ↔ v.Tidy ∧ ∀ x, v = .float x → KeepsText x := by
  cases v <;> simp [Lasting, Tidy]

theorem tidy_object {fields : Entries Value} (hinc : fields.Increasing) (h : ∀ e ∈ fields, ∀ u ∈ e.2.parts, u.Tidy) :
    ∀ u ∈ parts (.object fields), u.Tidy := by
  rw [parts, List.forall_mem_cons]
  refine ⟨hinc, fun u hu => ?_⟩
  obtain ⟨e, he, hu⟩ := mem_fieldsParts.mp hu
  exact h e he u hu

theorem tidy_ofList {es : List (String × Value)} (h : ∀ e ∈ es, ∀ u ∈ e.2.parts, u.Tidy) :
    ∀ u ∈ parts (.object (Entries.ofList es)), u.Tidy := by
  refine tidy_object (Entries.Increasing.ofList es) fun e he => ?_
  rcases Entries.mem_merge he with he | he
  · cases he
  · exact h e he

mutual
theorem tidy_ofJson : (j : Json) → ∀ u ∈ (ofJson j).parts, u.Tidy
  | .array items => by
    rw [ofJson, parts, List.forall_mem_cons]
    exact ⟨trivial, fun u hu => tidy_ofItems items u hu⟩
  | .object members => by
    rw [ofJson]; exact tidy_ofList (tidy_ofMembers members)
  | .nat n => by
    unfold ofJson ofNat
    split <;> simp [parts, Tidy]
  | .null | .bool _ | .neg _ | .float _ | .str _ => by simp [ofJson, parts, Tidy]

theorem tidy_ofItems : (items : List Json) → ∀ u ∈ itemsParts (ofItems items), u.Tidy
  | [] => by simp [ofItems, itemsParts]
  | j :: items => by
    intro u hu
    rw [ofItems, itemsParts] at hu
    rcases List.mem_append.mp hu with hu | hu
    · exact tidy_ofJson j u hu
    · exact tidy_ofItems items u hu

theorem tidy_ofMembers : (members : List (String × Json)) → ∀ e ∈ ofMembers members, ∀ u ∈ e.2.parts, u.Tidy
  | [] => by simp [ofMembers]
  | (name, j) :: members => by
    intro e he
    rw [ofMembers] at he
    rcases List.mem_cons.mp he with he | he
    · rw [he]; exact tidy_ofJson j
    · exact tidy_ofMembers members e he
end

end Value

/-! ## Records -/

namespace Record

def Tidy (record : Record) : Prop :=
  ∀ v ∈ Value.parts (.object record), v.Tidy

/-- A property of objects that only asks for their order is kept when records are merged. -/
theorem parts_merge {p : Value → Prop} (hp : ∀ fields, p (.object fields) ↔ Entries.Increasing fields)
    {record fields : Record} (hr : ∀ v ∈ Value.parts (.object record), p v)
    (hf : ∀ v ∈ Value.parts (.object fields), p v) :
    ∀ v ∈ Value.parts (.object (Entries.merge record fields)), p v := by
  rw [Value.parts, List.forall_mem_cons, hp] at hr hf ⊢
  refine ⟨hr.1.merge fields, ?_⟩
  intro u hu
  obtain ⟨e, he, hu⟩ := Value.mem_fieldsParts.mp hu
  rcases Entries.mem_merge he with he | he
  · exact hr.2 u (Value.mem_fieldsParts.mpr ⟨e, he, hu⟩)
  · exact hf.2 u (Value.mem_fieldsParts.mpr ⟨e, he, hu⟩)

theorem Tidy.merge {record fields : Record} (hr : record.Tidy) (hf : fields.Tidy) :
    Tidy (Entries.merge record fields) :=
  parts_merge (fun _ => Iff.rfl) hr hf

theorem tidy_ofMembers (members : List (String × Json)) : Tidy (ofMembers members) := by
  rw [ofMembers, ← Value.ofMembers_eq]
  exact Value.tidy_ofList (Value.tidy_ofMembers members)

theorem reader_yields (depth : Nat) : Json.Yields (reader depth) Tidy :=
  Json.Yields.map (p := fun _ => True) ofMembers (fun _ _ _ => trivial) fun members _ => tidy_ofMembers members

theorem tidy_of_parse {text : String} {record : Record} (h : parse text = .ok record) : record.Tidy :=
  Json.readAll_yields (reader_yields _) h

theorem tidy_of_parseMany {text : String} {records : List Record} (h : parseMany text = .ok records) :
    ∀ record ∈ records, record.Tidy :=
  Json.readAll_yields (Json.readArrayOf_yields reader_yields _) h

end Record

end DocStore
