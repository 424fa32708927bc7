import DocStore.Proofs.Disk.Saving

/-!
# What saving leaves alone

Making directories takes nothing away and adds nothing else, and writing a file changes no other place. If a path leads
somewhere before a text is saved to it, that is where the text goes.
-/

namespace DocStore.Disk

def Within (d e : Disk) : Prop :=
  ∀ place node, d.node? place = some node → e.node? place = some node

/-- The second disk is the first one with directories where there was nothing. -/
structure Grown (d e : Disk) : Prop where
  node? : ∀ place, e.node? place = d.node? place ∨ d.node? place = none ∧ e.node? place = some .directory
  fault? : e.fault? = d.fault?

theorem Grown.refl (d : Disk) : Grown d d :=
  ⟨fun _ => .inl rfl, rfl⟩

section
variable {d e f : Disk}

theorem Grown.trans (h : Grown d e) (h' : Grown e f) : Grown d f := by
  refine ⟨fun place => ?_, h'.fault?.trans h.fault?⟩
  rcases h.node? place with heq | ⟨hnone, hdir⟩ <;> rcases h'.node? place with heq' | ⟨hnone', hdir'⟩
  · exact .inl (heq'.trans heq)
  · exact .inr ⟨heq.symm.trans hnone', hdir'⟩
  · exact .inr ⟨hnone, heq'.trans hdir⟩
  · rw [hdir] at hnone'; cases hnone'

theorem Grown.within (h : Grown d e) : Within d e := by
  intro place node hnode
  rcases h.node? place with heq | ⟨hnone, -⟩
  · rw [heq, hnode]
  · rw [hnone] at hnode; cases hnode

theorem Grown.file_iff (h : Grown d e) {place : Place} {bytes : ByteArray} :
    e.node? place = some (.file bytes) ↔ d.node? place = some (.file bytes) := by
  refine ⟨fun hfile => ?_, h.within place _⟩
  rcases h.node? place with heq | ⟨-, hdir⟩
  · rw [← heq, hfile]
  · rw [hdir] at hfile; cases hfile

end

theorem isBase_of_node? {d : Disk} {place : Place} (h : d.node? place ≠ some .directory) : place.isBase = false :=
  Bool.eq_false_iff.mpr fun hbase => h (if_pos hbase)

/-! ## Directories -/

theorem grown_makeDir {d e : Disk} {start : Place} {name : String} {outer : List String}
    (h : d.makeDir start name outer = .ok e) : Grown d e := by
  unfold makeDir at h
  cases hcheck : checkNames (name :: outer) with
  | error cause => rw [hcheck] at h; cases h
  | ok u =>
    cases hwalk : d.walk start outer.reverse with
    | error cause => simp only [hcheck, hwalk] at h; cases h
    | ok last =>
      cases henter : d.enter last name with
      | error cause => simp only [hcheck, hwalk, henter, bind, Except.bind] at h; cases h
      | ok place =>
        simp only [hcheck, hwalk, henter, bind, Except.bind] at h
        split at h
        · cases h
        · rename_i hfree
          cases h
          refine ⟨fun other => ?_, rfl⟩
          rw [node?_set _ _ _ _ (isBase_of_node? (by rw [hfree]; nofun))]
          by_cases hother : other = place
          · exact .inr ⟨hother ▸ hfree, if_pos hother⟩
          · exact .inl (if_neg hother)

theorem grown_acceptPresent {d e : Disk} {start : Place} {names : List String} {made : Except Cause Disk}
    (h : Grown d e) (hmade : ∀ f, made = .ok f → Grown d f) : Grown d (e.acceptPresent start names made).2 := by
  unfold acceptPresent
  split
  · exact hmade _ rfl
  · split <;> exact h
  · exact h

theorem grown_makeDirs {start : Place} {names : List String} {d : Disk} : Grown d (makeDirs start names d).2 := by
  induction names generalizing d with
  | nil => exact .refl d
  | cons name outer ih =>
    rw [makeDirs]
    split
    · split
      · rename_i e houter
        have houter : Grown d e := by have h := @ih d; rwa [houter] at h
        exact grown_acceptPresent houter fun f hf => houter.trans (grown_makeDir hf)
      · exact ih
    · exact grown_acceptPresent (.refl d) fun f hf => grown_makeDir hf

/-! ## Files -/

/-- A write to the place that fails leaves there what it found. -/
def Untorn (d : Disk) (place : Place) : Prop :=
  ∀ text fault, d.fault? place text = some fault → fault.torn = none

theorem resolve_mono {d e : Disk} (h : Within d e) {path : String} {place : Place}
    (hplace : d.resolve path = .ok place) : e.resolve path = .ok place := by
  unfold resolve at hplace ⊢
  by_cases hpath : path = ""
  · rw [if_pos hpath] at hplace; cases hplace
  rw [if_neg hpath] at hplace ⊢
  cases hcheck : checkNames (names path) with
  | error cause => rw [hcheck] at hplace; cases hplace
  | ok u => rw [hcheck] at hplace; exact walk_mono (fun other => h other _) hplace

section
variable {d : Disk} {path text : String} {place other : Place}

/-- The path leads to the place of the file also when its directories have been made. -/
theorem target_eq {e : Disk} (h : Grown d e) (hplace : d.resolve path = .ok place) (htarget : e.target path = .ok other) :
    other = place := by
  have hresolve := resolve_of_target (fun _ => id) htarget
  rw [resolve_mono h.within hplace] at hresolve
  exact (Except.ok.inj hresolve).symm

theorem Written.node?_of_ne {saved : Except Cause Unit × Disk} (h : Written d path text saved)
    (hne : ∀ target, d.target path = .ok target → other ≠ target) : saved.2.node? other = d.node? other := by
  cases h with
  | refused => rfl
  | done htarget hfree | torn htarget hfree =>
    rw [node?_set _ _ _ _ (isBase_of_node? hfree), if_neg (hne _ htarget)]

/-- Saving to a path that leads to a place changes nothing elsewhere, whether or not it succeeds. -/
theorem node?_save_of_ne (hplace : d.resolve path = .ok place) (hne : other ≠ place) {node : Node}
    (hother : d.node? other = some node) : (d.save path text).2.node? other = some node := by
  have hgrown := @grown_makeDirs (base path) (folder path) d
  have hapart : ∀ target, (makeDirs (base path) (folder path) d).2.target path = .ok target → other ≠ target := by
    intro target htarget
    rw [target_eq hgrown hplace htarget]
    exact hne
  rw [(written_save d path text).node?_of_ne hapart]
  exact hgrown.within other node hother

theorem node?_save (hplace : d.resolve path = .ok place) (h : (d.save path text).1 = .ok ()) :
    (d.save path text).2.node? place = some (.file text.toUTF8) := by
  have hgrown := @grown_makeDirs (base path) (folder path) d
  have hsaved := written_save d path text
  generalize d.save path text = saved at h hsaved ⊢
  cases hsaved with
  | refused => cases h
  | done htarget hfree =>
    rw [target_eq hgrown hplace htarget] at hfree ⊢
    rw [node?_set _ _ _ _ (isBase_of_node? hfree), if_pos rfl]
  | torn => cases h

/-- A save that fails changes no file but one that it leaves torn. -/
theorem file_iff_of_save_error {cause : Cause} (h : (d.save path text).1 = .error cause) (huntorn : d.Untorn other)
    {bytes : ByteArray} :
    (d.save path text).2.node? other = some (.file bytes) ↔ d.node? other = some (.file bytes) := by
  have hgrown := @grown_makeDirs (base path) (folder path) d
  have hsaved := written_save d path text
  generalize d.save path text = saved at h hsaved ⊢
  cases hsaved with
  | refused => exact hgrown.file_iff
  | done => cases h
  | @torn place _ _ htarget hfree hfault =>
    have hne : other ≠ place := by
      rintro rfl
      rw [hgrown.fault?] at hfault
      cases huntorn _ _ hfault
    rw [node?_set _ _ _ _ (isBase_of_node? hfree), if_neg hne, hgrown.file_iff]

end

end DocStore.Disk
