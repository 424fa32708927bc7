import DocStore.Disk

/-!
# Reading what was saved

A path that a text was saved to leads to a file with that text: on the way to it nothing changes, because the file is
no directory that the way goes through.
-/

namespace DocStore.Disk

/-! ## Ways through directories -/

section
variable {d e : Disk}

theorem directory_of_enter {place place' : Place} {name : String} (h : d.enter place name = .ok place') :
    d.node? place = some .directory := by
  unfold enter at h
  split at h
  · cases h
  · cases h
  · assumption

theorem enter_of_directory {place : Place} {name : String} (h : d.node? place = some .directory)
    (h' : e.node? place = some .directory) : d.enter place name = e.enter place name := by
  simp only [enter, h, h']

section
variable (hdirs : ∀ place, d.node? place = some .directory → e.node? place = some .directory)
include hdirs

theorem enter_mono {place place' : Place} {name : String} (h : d.enter place name = .ok place') :
    e.enter place name = .ok place' := by
  have hdir := directory_of_enter h
  rw [← enter_of_directory hdir (hdirs _ hdir), h]

theorem walk_mono {names : List String} {place place' : Place} (h : d.walk place names = .ok place') :
    e.walk place names = .ok place' := by
  induction names generalizing place with
  | nil => exact h
  | cons name names ih =>
    unfold walk at h ⊢
    rw [List.foldlM_cons] at h ⊢
    cases hname : d.enter place name with
    | error cause => rw [hname] at h; cases h
    | ok next => rw [hname] at h; rw [enter_mono hdirs hname]; exact ih h

end

theorem walk_concat {names : List String} {place : Place} {name : String} :
    d.walk place (names ++ [name]) = d.walk place names >>= fun next => d.enter next name := by
  simp [walk, List.foldlM_append]

end

/-! ## Places of files -/

theorem enter_dot {d : Disk} {place place' : Place} (h : d.enter place "." = .ok place') : place' = place := by
  unfold enter at h
  split at h
  · cases h
  · cases h
  · rw [if_pos (.inr rfl)] at h
    cases h; rfl

theorem names_of_dropWhile {names outer : List String} {name : String}
    (h : names.reverse.dropWhile (· = "") = name :: outer) (hlast : names.getLast? ≠ some "") :
    names = outer.reverse ++ [name] := by
  rw [← List.head?_reverse] at hlast
  cases hrev : names.reverse with
  | nil => rw [hrev] at h; cases h
  | cons c cs =>
    rw [hrev] at h hlast
    have hc : c ≠ "" := fun hc => hlast (congrArg some hc)
    rw [List.dropWhile_cons_of_neg (by simpa using hc)] at h
    cases h
    rw [← List.reverse_reverse names, hrev, List.reverse_cons]

/-- What a file's path has to be like, and how it leads to the place of the file. -/
theorem target_cases {d : Disk} {path : String} {place : Place} (h : d.target path = .ok place) :
    ∃ outer name next, names path = outer ++ [name] ∧ path ≠ "" ∧ checkNames (names path) = .ok () ∧
      d.walk (base path) outer = .ok next ∧ d.enter next name = .ok place := by
  unfold target at h
  by_cases hpath : path = ""
  · rw [if_pos hpath] at h; cases h
  rw [if_neg hpath] at h
  cases hcheck : checkNames (names path) with
  | error cause => rw [hcheck] at h; cases h
  | ok u =>
    rw [hcheck] at h
    cases hnames : (names path).reverse.dropWhile (· = "") with
    | nil => rw [hnames] at h; cases h
    | cons name outer =>
      rw [hnames] at h
      cases hlast : d.walk (base path) ("." :: outer).reverse with
      | error cause => simp only [hlast] at h; cases h
      | ok last =>
        simp only [hlast] at h
        by_cases hdots : name = "." ∨ name = ".." ∨ (names path).getLast? = some ""
        · simp only [bind, Except.bind, if_pos hdots] at h; cases h
        simp only [bind, Except.bind, if_neg hdots] at h
        rw [List.reverse_cons, walk_concat] at hlast
        cases hwalk : d.walk (base path) outer.reverse with
        | error cause => rw [hwalk] at hlast; cases hlast
        | ok next =>
          rw [hwalk] at hlast
          obtain rfl := enter_dot hlast
          have hpathNames := names_of_dropWhile hnames fun h => hdots (.inr (.inr h))
          exact ⟨outer.reverse, name, last, hpathNames, hpath, rfl, hwalk, h⟩

theorem resolve_of_target {d e : Disk}
    (hdirs : ∀ place, d.node? place = some .directory → e.node? place = some .directory)
    {path : String} {place : Place} (h : d.target path = .ok place) : e.resolve path = .ok place := by
  obtain ⟨outer, name, next, hnames, hpath, hcheck, hwalk, henter⟩ := target_cases h
  rw [resolve, if_neg hpath, hcheck, hnames, walk_concat, walk_mono hdirs hwalk]
  exact enter_mono hdirs henter

/-! ## Saving and reading -/

theorem fromUTF8?_toUTF8 (text : String) : String.fromUTF8? text.toUTF8 = some text := by
  exact dif_pos text.isValidUTF8

theorem toUTF8_of_fromUTF8? {bytes : ByteArray} {text : String} (h : String.fromUTF8? bytes = some text) :
    text.toUTF8 = bytes := by
  unfold String.fromUTF8? at h
  split at h
  · cases h; rfl
  · cases h

theorem find_of_read {d : Disk} {path text : String} (h : d.read path = .ok text) :
    d.find path = .ok (.file text.toUTF8) := by
  unfold read at h
  cases hfind : d.find path with
  | error cause => rw [hfind] at h; cases h
  | ok node =>
    cases node with
    | directory => rw [hfind] at h; cases h
    | file bytes =>
      simp only [hfind, bind, Except.bind] at h
      split at h
      · rename_i text' htext
        cases h
        rw [toUTF8_of_fromUTF8? htext]
      · cases h

/-- What a write comes to: it is turned down, or done, or it fails and leaves the file torn. -/
inductive Written (d : Disk) (path text : String) : Except Cause Unit × Disk → Prop
  | refused (cause : Cause) : Written d path text (.error cause, d)
  | done {place : Place} : d.target path = .ok place → d.node? place ≠ some .directory →
      Written d path text (.ok (), d.set place (.file text.toUTF8))
  | torn {place : Place} {cause : Cause} {bytes : ByteArray} : d.target path = .ok place →
      d.node? place ≠ some .directory → d.fault? place text = some ⟨cause, some bytes⟩ →
      Written d path text (.error cause, d.set place (.file bytes))

theorem written_write (d : Disk) (path text : String) : Written d path text (d.write path text) := by
  unfold write
  split
  · exact .refused _
  · rename_i place htarget
    split
    · exact .refused _
    · rename_i hnode
      split
      · exact .done htarget hnode
      · rename_i fault hfault
        obtain ⟨cause, torn⟩ := fault
        cases torn with
        | none => exact .refused cause
        | some bytes => exact .torn htarget hnode hfault

/-- A save is a write once the directories have been made. -/
theorem written_save (d : Disk) (path text : String) :
    Written (makeDirs (base path) (folder path) d).2 path text (d.save path text) := by
  unfold save
  split
  · rename_i made hmade
    rw [hmade]
    exact written_write made path text
  · rename_i hfailed
    cases hmade : makeDirs (base path) (folder path) d with
    | mk result made =>
      cases result with
      | ok u => exact absurd hmade (hfailed made)
      | error cause => exact .refused cause

theorem Written.find {d : Disk} {path text : String} {saved : Except Cause Unit × Disk}
    (h : Written d path text saved) (hdone : saved.1 = .ok ()) : saved.2.find path = .ok (.file text.toUTF8) := by
  cases h with
  | refused => cases hdone
  | torn => cases hdone
  | @done place htarget hnode =>
    have hbase : place.isBase = false := by
      cases hb : place.isBase with
      | false => rfl
      | true => exact absurd (by simp [node?, hb]) hnode
    -- the file takes the place of no directory, so each way through directories is still there
    have hdirs : ∀ other, d.node? other = some .directory →
        (d.set place (.file text.toUTF8)).node? other = some .directory := by
      intro other hother
      rw [node?_set _ _ _ _ hbase, if_neg (fun he : other = place => hnode (he ▸ hother)), hother]
    rw [Disk.find, resolve_of_target hdirs htarget]
    simp only [bind, Except.bind, node?_set _ _ _ _ hbase, if_pos]
    rfl

/-- After a text was saved, the path leads to something, and what is read there is the text. -/
theorem read_of_save {d : Disk} {path text : String} (h : (d.save path text).1 = .ok ()) :
    (d.save path text).2.has path = true ∧ (d.save path text).2.read path = .ok text := by
  have hfind := (written_save d path text).find h
  refine ⟨by rw [has, hfind]; rfl, ?_⟩
  rw [read, hfind]
  simp only [bind, Except.bind, fromUTF8?_toUTF8]
  rfl

end DocStore.Disk
