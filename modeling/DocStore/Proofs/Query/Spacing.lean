import DocStore.Proofs.Query.Lexemes
import Mathlib.Algebra.Group.Nat.Even
import Mathlib.Data.List.TakeWhile

/-!
# Blanks put in and cut at

The two passes over a query both go through its characters with a flag for quotes. What each makes of a text in front of
a separating character depends on that text alone, and what it makes of the rest only on where the text leaves the flag
(`spaceOut_append`, `splitBlanks_append`). A text without blanks outside quotes comes out as one word
(`Solid.cut_append`).
-/

namespace DocStore.Query

open Text (isBlank isWord trim trimLeft trimRight)

/-! ## Quotes -/

theorem ne_quote_of_isBlank {c : Char} (h : isBlank c = true) : c ≠ '\'' := by
  rintro rfl
  revert h; decide

def inside (inQuotes : Bool) (cs : List Char) : Bool :=
  cs.foldl (fun b c => if c = '\'' then !b else b) inQuotes

theorem inside_cons (b : Bool) (c : Char) (cs : List Char) :
    inside b (c :: cs) = inside (if c = '\'' then !b else b) cs := rfl

theorem inside_append (b : Bool) (cs ds : List Char) : inside b (cs ++ ds) = inside (inside b cs) ds :=
  List.foldl_append

theorem inside_of_not_mem {cs : List Char} (h : '\'' ∉ cs) (b : Bool) : inside b cs = b := by
  induction cs with
  | nil => rfl
  | cons c cs ih =>
    obtain ⟨hc, hcs⟩ := List.ne_and_not_mem_of_not_mem_cons h
    rw [inside_cons, if_neg (Ne.symm hc), ih hcs]

theorem inside_eq (b : Bool) (cs : List Char) : inside b cs = if Even (cs.count '\'') then b else !b := by
  induction cs generalizing b with
  | nil => rfl
  | cons c cs ih =>
    rw [inside_cons, ih]
    by_cases hc : c = '\''
    · rw [if_pos hc, hc, List.count_cons_self, Bool.not_not]
      by_cases heven : Even (cs.count '\'') <;> simp [heven, Nat.even_add_one]
    · rw [if_neg hc, List.count_cons_of_ne hc]

/-! ## Blanks around lexemes -/

def lastOr (cs : List Char) (before : Char) : Char :=
  cs.getLast?.getD before

theorem lastOr_cons (c : Char) (cs : List Char) (before : Char) : lastOr (c :: cs) before = lastOr cs c := by
  unfold lastOr
  cases cs with
  | nil => rfl
  | cons d cs => simp [List.getLast?_cons]

theorem lastOr_mem {cs : List Char} (hne : cs ≠ []) (before : Char) : lastOr cs before ∈ cs := by
  rw [lastOr, List.getLast?_eq_some_getLast hne]
  exact List.getLast_mem hne

theorem lastOr_concat (cs : List Char) (c before : Char) : lastOr (cs ++ [c]) before = c := by
  simp [lastOr]

/-- What the first pass makes of a text: each lexeme outside quotes gets a blank on either side, and all else stays. -/
inductive Padded : Bool → Char → List Char → List Char → Prop
  | nil {b before} : Padded b before [] []
  | quote {b before cs ds} : Padded (!b) '\'' cs ds → Padded b before ('\'' :: cs) ('\'' :: ds)
  | kept {before c cs ds} : c ≠ '\'' → Padded true c cs ds → Padded true before (c :: cs) (c :: ds)
  | plain {before c cs ds} : c ≠ '\'' → lexemeLength before (c :: cs) = 0 → Padded false c cs ds →
      Padded false before (c :: cs) (c :: ds)
  | lexeme {before w cs ds} : w ≠ [] → lexemeLength before (w ++ cs) = w.length →
      Padded false (lastOr w before) cs ds → Padded false before (w ++ cs) (' ' :: (w ++ ' ' :: ds))

section
variable {b : Bool} {before c : Char} {cs rest : List Char} {n : Nat}

@[simp] theorem spaceOut_nil : spaceOut b before n [] = [] := by
  cases n <;> rfl

@[simp] theorem spaceOut_one : spaceOut b before 1 (c :: rest) = c :: ' ' :: spaceOut b c 0 rest := rfl

@[simp] theorem spaceOut_more : spaceOut b before (n + 2) (c :: rest) = c :: spaceOut b c (n + 1) rest := rfl

@[simp] theorem spaceOut_quote : spaceOut b before 0 ('\'' :: rest) = '\'' :: spaceOut (!b) '\'' 0 rest := rfl

theorem spaceOut_kept (hc : c ≠ '\'') : spaceOut true before 0 (c :: rest) = c :: spaceOut true c 0 rest := by
  rw [spaceOut, if_neg hc]; rfl

theorem spaceOut_plain (hc : c ≠ '\'') (h : lexemeLength before (c :: rest) = 0) :
    spaceOut false before 0 (c :: rest) = c :: spaceOut false c 0 rest := by
  rw [spaceOut, if_neg hc, h]; rfl

theorem spaceOut_first (hc : c ≠ '\'') (h : lexemeLength before (c :: rest) = n + 1) :
    spaceOut false before 0 (c :: rest) = ' ' :: spaceOut false before (n + 1) (c :: rest) := by
  rw [spaceOut, if_neg hc, h]
  cases n <;> rfl

theorem spaceOut_left (hne : cs ≠ []) :
    spaceOut b before cs.length (cs ++ rest) = cs ++ ' ' :: spaceOut b (lastOr cs before) 0 rest := by
  induction cs generalizing before with
  | nil => exact absurd rfl hne
  | cons c cs ih =>
    cases cs with
    | nil => rfl
    | cons d cs =>
      have h := @ih c (List.cons_ne_nil d cs)
      simp only [List.length_cons, List.cons_append, spaceOut_more, lastOr_cons] at h ⊢
      rw [h]

/-- A lexeme gets a blank on either side. -/
theorem spaceOut_lexeme (hne : cs ≠ []) (hq : '\'' ∉ cs) (hlength : lexemeLength before (cs ++ rest) = cs.length) :
    spaceOut false before 0 (cs ++ rest) = ' ' :: (cs ++ ' ' :: spaceOut false (lastOr cs before) 0 rest) := by
  rw [← spaceOut_left hne]
  cases cs with
  | nil => exact absurd rfl hne
  | cons c cs =>
    have hc : c ≠ '\'' := fun hc => hq (hc ▸ List.mem_cons_self ..)
    exact spaceOut_first hc hlength

/-- Of the character in front of a text only matters whether it is part of a word. -/
theorem spaceOut_before {before' : Char} (h : isWord before = isWord before') :
    spaceOut b before n cs = spaceOut b before' n cs := by
  cases cs with
  | nil => rw [spaceOut_nil, spaceOut_nil]
  | cons c cs =>
    have hlength : lexemeLength before (c :: cs) = lexemeLength before' (c :: cs) := by
      refine lexemeLength_congr (fun k => ?_) fun _ _ => rfl
      rw [keywordFirst, keywordFirst, h]
    unfold spaceOut
    rw [hlength]

/-- Where no lexeme begins nothing is put in. -/
theorem spaceOut_text (hq : '\'' ∉ cs)
    (h : ∀ x c y, cs = x ++ c :: y → lexemeLength (lastOr x before) (c :: (y ++ rest)) = 0) :
    spaceOut false before 0 (cs ++ rest) = cs ++ spaceOut false (lastOr cs before) 0 rest := by
  induction cs generalizing before with
  | nil => rfl
  | cons c cs ih =>
    obtain ⟨hc, hcs⟩ := List.ne_and_not_mem_of_not_mem_cons hq
    have hfirst : lexemeLength before (c :: (cs ++ rest)) = 0 := h [] c cs rfl
    have hlater : ∀ x d y, cs = x ++ d :: y → lexemeLength (lastOr x c) (d :: (y ++ rest)) = 0 := by
      intro x d y hsplit
      have := h (c :: x) d y (by rw [hsplit, List.cons_append])
      rwa [lastOr_cons] at this
    rw [List.cons_append, spaceOut_plain (Ne.symm hc) hfirst, lastOr_cons, ih hcs hlater, List.cons_append]

theorem spaceOut_blanks (h : ∀ c ∈ cs, isBlank c = true) :
    spaceOut false before 0 (cs ++ rest) = cs ++ spaceOut false (lastOr cs before) 0 rest := by
  refine spaceOut_text (fun hq => ?_) fun x c y hsplit => ?_
  · exact ne_quote_of_isBlank (h _ hq) rfl
  · exact lexemeLength_of_separates (separates_of_isBlank (h c (by simp [hsplit])))

theorem spaceOut_quoted (hq : '\'' ∉ cs) :
    spaceOut true before 0 (cs ++ '\'' :: rest) = cs ++ '\'' :: spaceOut false '\'' 0 rest := by
  induction cs generalizing before with
  | nil => rfl
  | cons c cs ih =>
    obtain ⟨hc, hcs⟩ := List.ne_and_not_mem_of_not_mem_cons hq
    rw [List.cons_append, spaceOut_kept (Ne.symm hc), ih hcs, List.cons_append]

theorem spaceOut_open (hq : '\'' ∉ cs) : spaceOut true before 0 cs = cs := by
  induction cs generalizing before with
  | nil => rfl
  | cons c cs ih =>
    obtain ⟨hc, hcs⟩ := List.ne_and_not_mem_of_not_mem_cons hq
    rw [spaceOut_kept (Ne.symm hc), ih hcs]

/-- What comes behind a separating character does not count in front of it. -/
theorem spaceOut_append (hc : Separates c) (hn : n ≤ (cs.takeWhile (· ≠ '\'')).length) :
    spaceOut b before n (cs ++ c :: rest) =
      spaceOut b before n cs ++ spaceOut (inside b cs) (lastOr cs before) 0 (c :: rest) := by
  induction cs generalizing b before n with
  | nil =>
    obtain rfl : n = 0 := Nat.le_zero.mp hn
    rfl
  | cons d cs ih =>
    -- within a lexeme there is no quote, so the flag stays as it is
    have hlexeme : ∀ {b' : Bool} {m : Nat}, m + 1 ≤ ((d :: cs).takeWhile (· ≠ '\'')).length →
        spaceOut b' before (m + 1) (d :: (cs ++ c :: rest)) =
          spaceOut b' before (m + 1) (d :: cs) ++ spaceOut (inside b' (d :: cs)) (lastOr cs d) 0 (c :: rest) := by
      intro b' m hm
      by_cases hd : d = '\''
      · simp [hd] at hm
      · rw [inside_cons, if_neg hd]
        simp only [List.takeWhile_cons, decide_eq_true hd, if_true, List.length_cons] at hm
        cases m with
        | zero => simp [ih (Nat.zero_le _)]
        | succ m => simp [ih (Nat.le_of_succ_le_succ hm)]
    rw [List.cons_append, lastOr_cons]
    cases n with
    | succ n => exact hlexeme hn
    | zero =>
      by_cases hd : d = '\''
      · subst hd
        rw [inside_cons, if_pos rfl]
        simp [ih (Nat.zero_le _)]
      cases b with
      | true =>
        rw [spaceOut_kept hd, spaceOut_kept hd, inside_cons, if_neg hd, ih (Nat.zero_le _), List.cons_append]
      | false =>
        have hsame : lexemeLength before (d :: (cs ++ c :: rest)) = lexemeLength before (d :: cs) := by
          rw [← List.cons_append]
          refine lexemeLength_append fun e he => ?_
          cases he; exact hc
        cases hlength : lexemeLength before (d :: cs) with
        | zero =>
          rw [spaceOut_plain hd (hsame.trans hlength), spaceOut_plain hd hlength, inside_cons, if_neg hd,
            ih (Nat.zero_le _), List.cons_append]
        | succ m =>
          rw [spaceOut_first hd (hsame.trans hlength), spaceOut_first hd hlength, List.cons_append]
          exact congrArg _ (hlexeme (hlength ▸ lexemeLength_le before (d :: cs)))

theorem padded_spaceOut (b : Bool) (before : Char) (cs : List Char) : Padded b before cs (spaceOut b before 0 cs) := by
  match cs with
  | [] =>
    rw [spaceOut_nil]
    exact .nil
  | c :: rest =>
    by_cases hc : c = '\''
    · subst hc
      exact .quote (padded_spaceOut (!b) '\'' rest)
    cases b with
    | true =>
      rw [spaceOut_kept hc]
      exact .kept hc (padded_spaceOut true c rest)
    | false =>
      cases hlength : lexemeLength before (c :: rest) with
      | zero =>
        rw [spaceOut_plain hc hlength]
        exact .plain hc hlength (padded_spaceOut false c rest)
      | succ n =>
        obtain ⟨w, more, hsplit, hw, hq⟩ : ∃ w more, c :: rest = w ++ more ∧ w.length = n + 1 ∧ '\'' ∉ w := by
          have hle := lexemeLength_le before (c :: rest)
          rw [hlength] at hle
          refine ⟨((c :: rest).takeWhile (· ≠ '\'')).take (n + 1),
            ((c :: rest).takeWhile (· ≠ '\'')).drop (n + 1) ++ (c :: rest).dropWhile (· ≠ '\''), ?_, ?_, ?_⟩
          · rw [← List.append_assoc, List.take_append_drop, List.takeWhile_append_dropWhile]
          · rw [List.length_take]
            omega
          · intro hmem
            simpa using List.mem_takeWhile_imp (List.mem_of_mem_take hmem)
        have hne : w ≠ [] := by
          rintro rfl
          cases hw
        have hmore : more.length < (c :: rest).length := by
          rw [hsplit, List.length_append]
          omega
        rw [hsplit] at hlength ⊢
        rw [spaceOut_lexeme hne hq (hlength.trans hw.symm)]
        exact .lexeme hne (hlength.trans hw.symm) (padded_spaceOut false (lastOr w before) more)
termination_by cs.length
decreasing_by
  all_goals first
    | exact hmore
    | exact Nat.lt_succ_self rest.length

/-- Nothing but blanks is put in. -/
theorem filter_spaceOut : (spaceOut b before n cs).filter (fun c => !isBlank c) = cs.filter fun c => !isBlank c := by
  induction cs generalizing b before n with
  | nil => rw [spaceOut_nil]
  | cons c cs ih =>
    have hblank : isBlank ' ' = true := by decide
    have hlexeme : ∀ {b' : Bool} {m : Nat},
        (spaceOut b' before (m + 1) (c :: cs)).filter (fun c => !isBlank c) = (c :: cs).filter fun c => !isBlank c := by
      intro b' m
      cases m <;> simp [List.filter_cons, hblank, ih]
    cases n with
    | succ n => exact hlexeme
    | zero =>
      by_cases hc : c = '\''
      · subst hc
        simp [List.filter_cons, ih]
      cases b with
      | true => rw [spaceOut_kept hc, List.filter_cons, List.filter_cons, ih]
      | false =>
        cases hlength : lexemeLength before (c :: cs) with
        | zero => rw [spaceOut_plain hc hlength, List.filter_cons, List.filter_cons, ih]
        | succ m => rw [spaceOut_first hc hlength, List.filter_cons_of_neg (by simp [hblank]), hlexeme]

theorem inside_filter (b : Bool) (cs : List Char) : inside b (cs.filter fun c => !isBlank c) = inside b cs := by
  induction cs generalizing b with
  | nil => rfl
  | cons c cs ih =>
    rw [List.filter_cons, inside_cons]
    cases hc : isBlank c with
    | true =>
      rw [if_neg (ne_quote_of_isBlank hc)]
      exact ih b
    | false => exact (inside_cons ..).trans (ih _)

theorem inside_spaceOut {b' : Bool} : inside b' (spaceOut b before n cs) = inside b' cs := by
  rw [← inside_filter, filter_spaceOut, inside_filter]

end

/-! ## Words between blanks -/

section
variable {b : Bool} {c : Char} {cs ds w : List Char} {ws vs : List (List Char)}

def glue : List (List Char) → List (List Char) → List (List Char)
  | [], vs => vs
  | [w], vs => w.foldr onto vs
  | w :: w' :: ws, vs => w :: glue (w' :: ws) vs

theorem splitBlanks_ne_nil (b : Bool) (cs : List Char) : splitBlanks b cs ≠ [] := by
  have honto : ∀ {c : Char} {ws : List (List Char)}, onto c ws ≠ [] := by
    intro c ws
    cases ws <;> exact List.cons_ne_nil _ _
  cases cs with
  | nil => exact List.cons_ne_nil _ _
  | cons c cs =>
    rw [splitBlanks]
    split
    · exact honto
    · split
      · exact List.cons_ne_nil _ _
      · exact honto

theorem glue_onto (hne : ws ≠ []) : glue (onto c ws) vs = onto c (glue ws vs) := by
  cases ws with
  | nil => exact absurd rfl hne
  | cons w ws => cases ws <;> rfl

theorem glue_nil_cons (hne : ws ≠ []) : glue ([] :: ws) vs = [] :: glue ws vs := by
  cases ws with
  | nil => exact absurd rfl hne
  | cons w ws => rfl

theorem glue_concat (ws : List (List Char)) (w : List Char) : glue (ws ++ [w]) vs = ws ++ w.foldr onto vs := by
  induction ws with
  | nil => rfl
  | cons v ws ih =>
    cases ws with
    | nil => rfl
    | cons u ws => exact congrArg _ ih

theorem splitBlanks_append : splitBlanks b (cs ++ ds) = glue (splitBlanks b cs) (splitBlanks (inside b cs) ds) := by
  induction cs generalizing b with
  | nil => rfl
  | cons c cs ih =>
    rw [List.cons_append, splitBlanks, splitBlanks, inside_cons]
    by_cases hc : c = '\''
    · simp only [if_pos hc]
      rw [ih, glue_onto (splitBlanks_ne_nil _ _)]
    · simp only [if_neg hc]
      split
      · rw [ih, glue_nil_cons (splitBlanks_ne_nil _ _)]
      · rw [ih, glue_onto (splitBlanks_ne_nil _ _)]

theorem foldr_onto : w.foldr onto (ds :: ws) = (w ++ ds) :: ws := by
  induction w with
  | nil => rfl
  | cons c w ih => rw [List.foldr_cons, ih]; rfl

/-- A blank outside quotes parts the words in front of it from those behind it. -/
theorem splitBlanks_append_blank (hcs : inside false cs = false) (hc : isBlank c = true) :
    splitBlanks false (cs ++ c :: ds) = splitBlanks false cs ++ splitBlanks false ds := by
  have hblank : splitBlanks false (c :: ds) = [] :: splitBlanks false ds := by
    rw [splitBlanks, if_neg (ne_quote_of_isBlank hc), hc]
    rfl
  have hlast := List.dropLast_concat_getLast (splitBlanks_ne_nil false cs)
  rw [splitBlanks_append, hcs, hblank, ← hlast, glue_concat, foldr_onto, List.append_nil, List.append_assoc]
  rfl

end

/-! ## Trimming -/

theorem trimLeft_append {x y : List Char} (h : ∀ c ∈ y.head?, isBlank c = false) :
    trimLeft (x ++ y) = trimLeft x ++ y := by
  have hy : y.dropWhile isBlank = y := by
    cases y with
    | nil => rfl
    | cons c y => exact List.dropWhile_cons_of_neg (by rw [h c rfl]; exact Bool.false_ne_true)
  unfold trimLeft
  rw [List.dropWhile_append, hy]
  split
  · rename_i hempty
    rw [List.isEmpty_iff.mp hempty, List.nil_append]
  · rfl

theorem trimRight_append {x y : List Char} (h : ∀ c ∈ x.getLast?, isBlank c = false) :
    trimRight (x ++ y) = x ++ trimRight y := by
  have hx : ∀ c ∈ x.reverse.head?, isBlank c = false := by rwa [List.head?_reverse]
  rw [trimRight, List.reverse_append, trimLeft_append hx, List.reverse_append, List.reverse_reverse]
  rfl

theorem exists_trimLeft (w : List Char) : ∃ g, (∀ c ∈ g, isBlank c = true) ∧ w = g ++ trimLeft w ∧
    ∀ c ∈ (trimLeft w).head?, isBlank c = false := by
  refine ⟨w.takeWhile isBlank, fun c hc => List.mem_takeWhile_imp hc, List.takeWhile_append_dropWhile.symm, ?_⟩
  intro c hc
  have hstop := List.head?_dropWhile_not isBlank w
  unfold trimLeft at hc
  rw [Option.mem_def.mp hc] at hstop
  simpa using hstop

theorem exists_trimRight (w : List Char) : ∃ g, (∀ c ∈ g, isBlank c = true) ∧ w = trimRight w ++ g ∧
    ∀ c ∈ (trimRight w).getLast?, isBlank c = false := by
  obtain ⟨g, hg, hw, hhead⟩ := exists_trimLeft w.reverse
  refine ⟨g.reverse, fun c hc => hg c (List.mem_reverse.mp hc), ?_, ?_⟩
  · rw [trimRight, ← List.reverse_append, ← hw, List.reverse_reverse]
  · rw [trimRight, List.getLast?_reverse]
    exact hhead

/-- Trimming takes blanks off both ends, and leaves none there. -/
theorem exists_trim (w : List Char) : ∃ g h, (∀ c ∈ g, isBlank c = true) ∧ (∀ c ∈ h, isBlank c = true) ∧
    w = g ++ (trim w ++ h) ∧ (∀ c ∈ (trim w).head?, isBlank c = false) ∧
    ∀ c ∈ (trim w).getLast?, isBlank c = false := by
  obtain ⟨g, hg, hw, hhead⟩ := exists_trimLeft w
  obtain ⟨h, hh, hleft, hlast⟩ := exists_trimRight (trimLeft w)
  refine ⟨g, h, hg, hh, ?_, ?_, hlast⟩
  · rw [trim, ← hleft, ← hw]
  · intro c hc
    have hfirst : (trimRight (trimLeft w)).head? = some c := hc
    apply hhead
    rw [hleft, List.head?_append, hfirst]
    rfl

theorem trim_eq_self {w : List Char} (hhead : ∀ c ∈ w.head?, isBlank c = false)
    (hlast : ∀ c ∈ w.getLast?, isBlank c = false) : trim w = w := by
  have hleft : trimLeft w = w := trimLeft_append (x := []) hhead
  have hright : trimRight (w ++ []) = w ++ [] := trimRight_append hlast
  rw [List.append_nil] at hright
  rw [trim, hleft, hright]

theorem trim_trim (w : List Char) : trim (trim w) = trim w := by
  obtain ⟨g, h, -, -, -, hhead, hlast⟩ := exists_trim w
  exact trim_eq_self hhead hlast

/-! ## Cutting at blanks -/

def cut (cs : List Char) : List (List Char) :=
  ((splitBlanks false cs).map trim).filter (· ≠ [])

theorem tokenizeChars_eq (cs : List Char) : tokenizeChars cs = (cut (spaceOut false ' ' 0 cs)).map Token.ofText := rfl

section
variable {c : Char} {cs rest w : List Char}

theorem cut_cons_of_isBlank (h : isBlank c = true) : cut (c :: rest) = cut rest := by
  rw [cut, splitBlanks, if_neg (ne_quote_of_isBlank h), h]
  rfl

theorem cut_append_of_isBlank (h : ∀ c ∈ cs, isBlank c = true) : cut (cs ++ rest) = cut rest := by
  induction cs with
  | nil => rfl
  | cons c cs ih =>
    obtain ⟨hc, hcs⟩ := List.forall_mem_cons.mp h
    rw [List.cons_append, cut_cons_of_isBlank hc, ih hcs]

theorem cut_append_blank (hcs : inside false cs = false) (hc : isBlank c = true) :
    cut (cs ++ c :: rest) = cut cs ++ cut rest := by
  simp only [cut, splitBlanks_append_blank hcs hc, List.map_append, List.filter_append]

structure Solid (w : List Char) : Prop where
  ne_nil : w ≠ []
  closed : inside false w = false
  uncut : splitBlanks false w = [w]
  trimmed : trim w = w

theorem Solid.cut_append (hw : Solid w) (h : ∀ c ∈ rest.head?, isBlank c = true) : cut (w ++ rest) = w :: cut rest := by
  obtain ⟨words, hrest⟩ : ∃ words, splitBlanks false rest = [] :: words := by
    cases rest with
    | nil => exact ⟨[], rfl⟩
    | cons c rest => exact ⟨splitBlanks false rest, by simp [splitBlanks, ne_quote_of_isBlank (h c rfl), h c rfl]⟩
  have hsplit : splitBlanks false (w ++ rest) = w :: words := by
    rw [splitBlanks_append, hw.uncut, hw.closed, glue, hrest, foldr_onto, List.append_nil]
  have hempty : trim [] = [] := rfl
  simp [cut, hsplit, hrest, hempty, hw.trimmed, hw.ne_nil]

theorem splitBlanks_of_plain {b : Bool} (h : ∀ c ∈ w, c ≠ '\'' ∧ (b || !isBlank c) = true) : splitBlanks b w = [w] := by
  induction w with
  | nil => rfl
  | cons c w ih =>
    obtain ⟨⟨hc, hblank⟩, hw⟩ := List.forall_mem_cons.mp h
    have hkept : ¬ (isBlank c && !b) = true := by
      cases b <;> simp_all
    rw [splitBlanks, if_neg hc, if_neg hkept, ih hw]
    rfl

theorem solid_of_plain (hne : w ≠ []) (h : ∀ c ∈ w, c ≠ '\'' ∧ isBlank c = false) : Solid w where
  ne_nil := hne
  closed := inside_of_not_mem (fun hq => (h _ hq).1 rfl) false
  uncut := splitBlanks_of_plain fun c hc => ⟨(h c hc).1, by rw [(h c hc).2]; rfl⟩
  trimmed := trim_eq_self (fun c hc => (h c (List.mem_of_head? hc)).2) fun c hc => (h c (List.mem_of_getLast? hc)).2

end

end DocStore.Query
