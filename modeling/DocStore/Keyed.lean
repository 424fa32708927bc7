/-!
# Entries in key order

`Entries α` is a plain list of named values: the fields of a record and of an object. `Keyed α` is
such a list together with the fact that its keys increase, and is what collections are made of. Keys are
compared character by character, which is also the order of their encoded bytes. Looking up after an
insertion needs no order; equality of two keyed lists follows from equal look-ups (`Keyed.ext_get?`).
-/

namespace DocStore

abbrev Entries (α : Type) := List (String × α)

namespace Entries

variable {α : Type}

/-- The value under `key`: the first one, if there were several. -/
def get? (key : String) : Entries α → Option α
  | [] => none
  | (k, v) :: rest => if k = key then some v else get? key rest

def insert (key : String) (value : α) : Entries α → Entries α
  | [] => [(key, value)]
  | (k, v) :: rest =>
    if key < k then (key, value) :: (k, v) :: rest
    else if key = k then (key, value) :: rest
    else (k, v) :: insert key value rest

def erase (key : String) (es : Entries α) : Entries α :=
  es.filter fun e => e.1 ≠ key

/-- Both lists together; where both have a key, the second one's value stays. -/
def merge (es updates : Entries α) : Entries α :=
  updates.foldl (fun acc e => insert e.1 e.2 acc) es

/-- The entries in key order; of several under one key the last one stays. -/
def ofList (es : List (String × α)) : Entries α :=
  merge [] es

def keys (es : Entries α) : List String :=
  es.map Prod.fst

def Increasing (es : Entries α) : Prop :=
  es.Pairwise fun a b => a.1 < b.1

instance (es : Entries α) : Decidable es.Increasing :=
  inferInstanceAs (Decidable (es.Pairwise fun a b => a.1 < b.1))

/-! ## Looking up -/

@[simp] theorem get?_nil (key : String) : get? key ([] : Entries α) = none := rfl

theorem get?_cons (key k : String) (v : α) (es : Entries α) :
    get? key ((k, v) :: es) = if k = key then some v else get? key es := rfl

theorem get?_insert_self (key : String) (value : α) (es : Entries α) :
    get? key (insert key value es) = some value := by
  induction es with
  | nil => simp [insert, get?]
  | cons e es ih =>
    obtain ⟨k, v⟩ := e
    simp only [insert]
    split
    · simp [get?]
    · split
      · simp [get?]
      · rename_i h
        simp [get?, Ne.symm h, ih]

theorem get?_insert_of_ne {key other : String} (h : other ≠ key) (value : α) (es : Entries α) :
    get? other (insert key value es) = get? other es := by
  induction es with
  | nil => simp [insert, get?, Ne.symm h]
  | cons e es ih =>
    obtain ⟨k, v⟩ := e
    simp only [insert]
    split
    · simp [get?, Ne.symm h]
    · split
      · rename_i hk
        subst hk
        simp [get?, Ne.symm h]
      · simp [get?, ih]

theorem get?_insert (key other : String) (value : α) (es : Entries α) :
    get? other (insert key value es) = if other = key then some value else get? other es := by
  by_cases h : other = key
  · subst h
    simp [get?_insert_self]
  · simp [h, get?_insert_of_ne]

theorem get?_erase (key other : String) (es : Entries α) :
    get? other (erase key es) = if other = key then none else get? other es := by
  induction es with
  | nil => simp [erase]
  | cons e es ih =>
    obtain ⟨k, v⟩ := e
    simp only [erase] at ih
    by_cases hk : k = key
    · subst hk
      simp only [erase, List.filter_cons, ne_eq, not_true_eq_false, decide_false, Bool.false_eq_true,
        if_false, ih, get?]
      by_cases h : other = k
      · simp [h]
      · simp [h, Ne.symm h]
    · simp only [erase, List.filter_cons, ne_eq, hk, not_false_eq_true, decide_true, if_true, get?, ih]
      by_cases h : other = key
      · subst h
        simp [hk]
      · simp [h]

/-! ## Order -/

theorem mem_insert {key : String} {value : α} {e : String × α} {es : Entries α} :
    e ∈ insert key value es → e = (key, value) ∨ e ∈ es := by
  induction es with
  | nil => simp [insert]
  | cons e' es ih =>
    simp only [insert]
    split
    · simp
    · split
      · simp only [List.mem_cons]
        rintro (h | h)
        · exact .inl h
        · exact .inr (.inr h)
      · simp only [List.mem_cons]
        rintro (h | h)
        · exact .inr (.inl h)
        · exact (ih h).imp id .inr

theorem Increasing.insert {es : Entries α} (h : es.Increasing) (key : String) (value : α) :
    (insert key value es).Increasing := by
  induction es with
  | nil => simp [Entries.insert, Increasing]
  | cons e es ih =>
    obtain ⟨k, v⟩ := e
    obtain ⟨hk, hes⟩ := List.pairwise_cons.1 h
    simp only [Entries.insert]
    split
    · rename_i hlt
      refine List.pairwise_cons.2 ⟨fun e he => ?_, h⟩
      rcases List.mem_cons.1 he with rfl | he
      · exact hlt
      · exact String.lt_trans hlt (hk e he)
    · split
      · rename_i heq
        subst heq
        exact List.pairwise_cons.2 ⟨hk, hes⟩
      · rename_i hlt hne
        refine List.pairwise_cons.2 ⟨fun e he => ?_, ih hes⟩
        rcases mem_insert he with rfl | he
        · rcases Decidable.em (k < key) with h | h
          · exact h
          · exact absurd (String.le_antisymm (String.not_lt.1 h) (String.not_lt.1 hlt)) hne
        · exact hk e he

theorem Increasing.erase {es : Entries α} (h : es.Increasing) (key : String) : (erase key es).Increasing :=
  List.Pairwise.filter _ h

theorem Increasing.merge {es : Entries α} (h : es.Increasing) (updates : Entries α) :
    (merge es updates).Increasing := by
  induction updates generalizing es with
  | nil => exact h
  | cons e updates ih => exact ih (h.insert e.1 e.2)

theorem Increasing.ofList (es : List (String × α)) : (ofList es).Increasing :=
  Increasing.merge List.Pairwise.nil es

theorem get?_eq_none_of_lt {key : String} {es : Entries α} (h : ∀ e ∈ es, key < e.1) : get? key es = none := by
  induction es with
  | nil => rfl
  | cons e es ih =>
    obtain ⟨k, v⟩ := e
    have hk : k ≠ key := fun he => String.lt_irrefl key (he ▸ h (k, v) (List.mem_cons_self ..))
    simp [get?, hk, ih fun e he => h e (List.mem_cons_of_mem _ he)]

theorem Increasing.ext {es fs : Entries α} (he : es.Increasing) (hf : fs.Increasing)
    (h : ∀ key, get? key es = get? key fs) : es = fs := by
  induction es generalizing fs with
  | nil =>
    cases fs with
    | nil => rfl
    | cons f fs => have := h f.1; simp [get?] at this
  | cons e es ih =>
    obtain ⟨k, v⟩ := e
    obtain ⟨hk, hes⟩ := List.pairwise_cons.1 he
    cases fs with
    | nil => have := h k; simp [get?] at this
    | cons f fs =>
      obtain ⟨j, w⟩ := f
      obtain ⟨hj, hfs⟩ := List.pairwise_cons.1 hf
      have first : k = j := by
        rcases Decidable.em (k < j) with hlt | hge
        · have hnone : get? k ((j, w) :: fs) = none :=
            get?_eq_none_of_lt fun e he => by
              rcases List.mem_cons.1 he with rfl | he
              · exact hlt
              · exact String.lt_trans hlt (hj e he)
          have := h k
          rw [hnone] at this
          simp [get?_cons] at this
        · rcases Decidable.em (j < k) with hlt | hge'
          · have hnone : get? j ((k, v) :: es) = none :=
              get?_eq_none_of_lt fun e he => by
                rcases List.mem_cons.1 he with rfl | he
                · exact hlt
                · exact String.lt_trans hlt (hk e he)
            have := h j
            rw [hnone] at this
            simp [get?_cons] at this
          · exact String.le_antisymm (String.not_lt.1 hge') (String.not_lt.1 hge)
      subst first
      have hvw : v = w := by have := h k; simpa [get?] using this
      subst hvw
      congr 1
      refine ih hes hfs fun key => ?_
      have hkey := h key
      simp only [get?_cons] at hkey
      by_cases hk' : k = key
      · subst hk'
        rw [get?_eq_none_of_lt hk, get?_eq_none_of_lt hj]
      · simpa [hk'] using hkey

end Entries

structure Keyed (α : Type) where
  entries : Entries α
  increasing : entries.Increasing

namespace Keyed

variable {α : Type}

instance [DecidableEq α] : DecidableEq (Keyed α) := fun a b =>
  if h : a.entries = b.entries then isTrue (by cases a; cases b; cases h; rfl)
  else isFalse fun e => h (congrArg entries e)

def empty : Keyed α := ⟨[], List.Pairwise.nil⟩

instance : EmptyCollection (Keyed α) := ⟨empty⟩

instance : Inhabited (Keyed α) := ⟨empty⟩

def get? (m : Keyed α) (key : String) : Option α :=
  Entries.get? key m.entries

def insert (m : Keyed α) (key : String) (value : α) : Keyed α :=
  ⟨Entries.insert key value m.entries, m.increasing.insert key value⟩

def erase (m : Keyed α) (key : String) : Keyed α :=
  ⟨Entries.erase key m.entries, m.increasing.erase key⟩

def ofList (es : List (String × α)) : Keyed α :=
  ⟨Entries.ofList es, Entries.Increasing.ofList es⟩

def keys (m : Keyed α) : List String :=
  m.entries.keys

def isEmpty (m : Keyed α) : Bool :=
  m.entries.isEmpty

theorem ext_entries {m n : Keyed α} (h : m.entries = n.entries) : m = n := by
  cases m; cases n; cases h; rfl

theorem ext_get? {m n : Keyed α} (h : ∀ key, m.get? key = n.get? key) : m = n :=
  ext_entries (m.increasing.ext n.increasing h)

@[simp] theorem get?_empty (key : String) : (∅ : Keyed α).get? key = none := rfl

theorem get?_insert (m : Keyed α) (key other : String) (value : α) :
    (m.insert key value).get? other = if other = key then some value else m.get? other :=
  Entries.get?_insert key other value m.entries

theorem get?_erase (m : Keyed α) (key other : String) :
    (m.erase key).get? other = if other = key then none else m.get? other :=
  Entries.get?_erase key other m.entries

theorem eq_empty_of_isEmpty {m : Keyed α} (h : m.isEmpty = true) : m = ∅ :=
  ext_entries (List.isEmpty_iff.1 h)

end Keyed

end DocStore
