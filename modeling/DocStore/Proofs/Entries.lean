import DocStore.Keyed

/-!
# Entries

Which entries a list in key order holds, and that of several entries under one name the last one counts when a list is
put in order or merged into another.
-/

namespace DocStore.Entries

variable {α β : Type}

/-! ## Look-ups and entries -/

theorem mem_of_get? {key : String} {v : α} {es : Entries α} (h : get? key es = some v) : (key, v) ∈ es := by
  induction es with
  | nil => cases h
  | cons e es ih =>
    obtain ⟨k, w⟩ := e
    rw [get?_cons] at h
    split at h
    · rename_i hk
      cases h; subst hk
      exact List.mem_cons_self ..
    · exact List.mem_cons_of_mem _ (ih h)

theorem Increasing.get?_of_mem {key : String} {v : α} {es : Entries α} (hes : es.Increasing) (h : (key, v) ∈ es) :
    get? key es = some v := by
  induction es with
  | nil => cases h
  | cons e es ih =>
    obtain ⟨k, w⟩ := e
    obtain ⟨hk, hes⟩ := List.pairwise_cons.mp hes
    rw [get?_cons]
    rcases List.mem_cons.mp h with h | h
    · cases h; exact if_pos rfl
    · rw [if_neg fun he : k = key => String.lt_irrefl k (he ▸ hk _ h), ih hes h]

/-- Of several values under one key the first one counts. -/
theorem get?_zip {keys : List String} {vs : List α} {i : Nat} {key : String} (hkey : keys[i]? = some key)
    (hfirst : key ∉ keys.take i) : get? key (keys.zip vs) = vs[i]? := by
  induction keys generalizing vs i with
  | nil => cases hkey
  | cons k keys ih =>
    cases vs with
    | nil => rfl
    | cons v vs =>
      rw [List.zip_cons_cons, get?_cons]
      cases i with
      | zero => cases hkey; exact if_pos rfl
      | succ i =>
        rw [List.take_succ_cons, List.mem_cons, not_or] at hfirst
        rw [if_neg (Ne.symm hfirst.1)]
        exact ih hkey hfirst.2

theorem insert_ne_nil (key : String) (v : α) (es : Entries α) : insert key v es ≠ [] := by
  intro h
  have hself := get?_insert_self key v es
  rw [h] at hself; cases hself

theorem mem_merge {e : String × α} {es fs : Entries α} (h : e ∈ merge es fs) :
    e ∈ es ∨ e ∈ fs := by
  induction fs generalizing es with
  | nil => exact .inl h
  | cons f fs ih =>
    have hmerge : merge es (f :: fs) = merge (insert f.1 f.2 es) fs := rfl
    rw [hmerge] at h
    rcases ih h with h | h
    · rcases mem_insert h with rfl | h
      · exact .inr (List.mem_cons_self ..)
      · exact .inl h
    · exact .inr (List.mem_cons_of_mem _ h)

/-! ## Repeated names -/

def last? (key : String) : Entries α → Option α
  | [] => none
  | (k, v) :: rest => (last? key rest).or (if k = key then some v else none)

theorem get?_merge (es updates : Entries α) (key : String) :
    get? key (merge es updates) = (last? key updates).or (get? key es) := by
  induction updates generalizing es with
  | nil => rfl
  | cons e updates ih =>
    obtain ⟨k, v⟩ := e
    have hmerge : merge es ((k, v) :: updates) = merge (insert k v es) updates := rfl
    rw [hmerge, ih, get?_insert, last?]
    by_cases hk : k = key
    · rw [if_pos hk, if_pos hk.symm, Option.or_assoc]; rfl
    · rw [if_neg hk, if_neg (Ne.symm hk), Option.or_none]

theorem get?_ofList (es : List (String × α)) (key : String) : get? key (ofList es) = last? key es := by
  rw [ofList, get?_merge, get?_nil, Option.or_none]

/-! ## Entries in order -/

theorem insert_greatest {es : Entries α} {key : String} (h : ∀ e ∈ es, e.1 < key) (value : α) :
    insert key value es = es ++ [(key, value)] := by
  induction es with
  | nil => rfl
  | cons e es ih =>
    obtain ⟨k, v⟩ := e
    have hk : k < key := h (k, v) (List.mem_cons_self ..)
    rw [insert, if_neg (String.lt_asymm hk), if_neg (fun he : key = k => String.lt_irrefl k (he ▸ hk)),
      ih fun e he => h e (List.mem_cons_of_mem _ he)]
    rfl

theorem merge_of_increasing {es fs : Entries α} (h : Increasing (es ++ fs)) : merge es fs = es ++ fs := by
  induction fs generalizing es with
  | nil => exact (List.append_nil es).symm
  | cons f fs ih =>
    have hf : ∀ e ∈ es, e.1 < f.1 := fun e he => (List.pairwise_append.mp h).2.2 e he f (List.mem_cons_self ..)
    have hmerge : merge es (f :: fs) = merge (insert f.1 f.2 es) fs := rfl
    have happend : es ++ f :: fs = (es ++ [f]) ++ fs := by simp
    rw [happend] at h
    rw [hmerge, insert_greatest hf, ih h, happend]

theorem ofList_of_increasing {es : Entries α} (h : es.Increasing) : ofList es = es :=
  merge_of_increasing (show Increasing ([] ++ es) from h)

theorem increasing_of_keys_eq {es : Entries α} {fs : Entries β} (hk : es.keys = fs.keys) (h : es.Increasing) :
    fs.Increasing := by
  have hes : es.keys.Pairwise (· < ·) := List.pairwise_map.mpr h
  rw [hk] at hes
  exact List.pairwise_map.mp hes

theorem Increasing.last?_eq {es : Entries α} (h : es.Increasing) (key : String) : last? key es = get? key es := by
  rw [← get?_ofList, ofList_of_increasing h]

/-! ## Other values under the same names -/

theorem last?_map (f : α → β) (es : Entries α) (key : String) :
    last? key (es.map fun e => (e.1, f e.2)) = (last? key es).map f := by
  induction es with
  | nil => rfl
  | cons e es ih =>
    rw [List.map_cons, last?, ih, last?, Option.map_or]
    split <;> rfl

theorem get?_map (f : α → β) (es : Entries α) (key : String) :
    get? key (es.map fun e => (e.1, f e.2)) = (get? key es).map f := by
  induction es with
  | nil => rfl
  | cons e es ih =>
    obtain ⟨k, v⟩ := e
    rw [List.map_cons, get?_cons, ih, get?_cons]
    split <;> rfl

theorem Increasing.map {es : Entries α} (h : es.Increasing) (f : α → β) :
    Increasing (es.map fun e => (e.1, f e.2)) :=
  List.pairwise_map.mpr h

theorem ofList_map (f : α → β) (es : List (String × α)) :
    ofList (es.map fun e => (e.1, f e.2)) = (ofList es).map fun e => (e.1, f e.2) := by
  refine (Increasing.ofList _).ext ((Increasing.ofList es).map f) fun key => ?_
  rw [get?_ofList, last?_map, get?_map, get?_ofList]

end DocStore.Entries
