import DocStore.Proofs.Query.Spacing
import DocStore.Query

/-!
# Other blanks

A blank outside quotes parts a query in two, each of which is cut into tokens on its own
(`tokenizeChars_append_blanks`). So it does not matter which blanks stand there, nor how many, and at the ends of a query
not even whether there are any (`tokenize_respaced`).
-/

namespace DocStore.Query

open Text (isBlank isWord)

/-- The second text has other blanks than the first one at places outside quotes: blanks instead of blanks, or more or
fewer of them at an end. -/
inductive Respaced : List Char → List Char → Prop
  | refl (cs) : Respaced cs cs
  | trans {cs ds es} : Respaced cs ds → Respaced ds es → Respaced cs es
  | between {p g h q} : inside false p = false → g ≠ [] → h ≠ [] → (∀ c ∈ g ++ h, isBlank c = true) →
      Respaced (p ++ (g ++ q)) (p ++ (h ++ q))
  | leading {g h q} : (∀ c ∈ g ++ h, isBlank c = true) → Respaced (g ++ q) (h ++ q)
  | trailing {p g h} : inside false p = false → (∀ c ∈ g ++ h, isBlank c = true) → Respaced (p ++ g) (p ++ h)

section
variable {p g q : List Char}

theorem spaceOut_append_blanks (hp : inside false p = false) (hg : ∀ c ∈ g, isBlank c = true) (hne : g ≠ []) :
    spaceOut false ' ' 0 (p ++ (g ++ q)) = spaceOut false ' ' 0 p ++ (g ++ spaceOut false ' ' 0 q) := by
  have hlast : isWord (lastOr g (lastOr p ' ')) = isWord ' ' := by
    rw [isWord_of_isBlank (hg _ (lastOr_mem hne _)), isWord_of_isBlank (by decide)]
  have hblanks : spaceOut false (lastOr p ' ') 0 (g ++ q) = g ++ spaceOut false ' ' 0 q := by
    rw [spaceOut_blanks hg, spaceOut_before hlast]
  cases g with
  | nil => exact absurd rfl hne
  | cons c g =>
    have hc : Separates c := separates_of_isBlank (hg c List.mem_cons_self)
    rw [List.cons_append, spaceOut_append hc (Nat.zero_le _), hp, ← List.cons_append, hblanks]

/-- Blanks outside quotes part a query. -/
theorem tokenizeChars_append_blanks (hp : inside false p = false) (hg : ∀ c ∈ g, isBlank c = true) (hne : g ≠ []) :
    tokenizeChars (p ++ (g ++ q)) = tokenizeChars p ++ tokenizeChars q := by
  have hclosed : inside false (spaceOut false ' ' 0 p) = false := by
    rw [inside_spaceOut, hp]
  rw [tokenizeChars_eq, spaceOut_append_blanks hp hg hne]
  cases g with
  | nil => exact absurd rfl hne
  | cons c g =>
    obtain ⟨hc, hblanks⟩ := List.forall_mem_cons.mp hg
    rw [List.cons_append, cut_append_blank hclosed hc, cut_append_of_isBlank hblanks, List.map_append]
    rfl

theorem tokenizeChars_leading (hg : ∀ c ∈ g, isBlank c = true) : tokenizeChars (g ++ q) = tokenizeChars q := by
  by_cases hne : g = []
  · rw [hne, List.nil_append]
  · exact tokenizeChars_append_blanks (p := []) rfl hg hne

theorem tokenizeChars_trailing (hp : inside false p = false) (hg : ∀ c ∈ g, isBlank c = true) :
    tokenizeChars (p ++ g) = tokenizeChars p := by
  by_cases hne : g = []
  · rw [hne, List.append_nil]
  · have hparts := tokenizeChars_append_blanks (q := []) hp hg hne
    have hnone : tokenizeChars [] = [] := rfl
    rwa [hnone, List.append_nil, List.append_nil] at hparts

end

theorem tokenizeChars_respaced {cs ds : List Char} (h : Respaced cs ds) : tokenizeChars cs = tokenizeChars ds := by
  induction h with
  | refl => rfl
  | trans _ _ ih ih' => rw [ih, ih']
  | between hp hg hh hblank =>
    obtain ⟨hleft, hright⟩ := List.forall_mem_append.mp hblank
    rw [tokenizeChars_append_blanks hp hleft hg, tokenizeChars_append_blanks hp hright hh]
  | leading hblank =>
    obtain ⟨hleft, hright⟩ := List.forall_mem_append.mp hblank
    rw [tokenizeChars_leading hleft, tokenizeChars_leading hright]
  | trailing hp hblank =>
    obtain ⟨hleft, hright⟩ := List.forall_mem_append.mp hblank
    rw [tokenizeChars_trailing hp hleft, tokenizeChars_trailing hp hright]

/-- With other blanks outside quotes an expression has the same tokens, and so it matches the same records. -/
theorem tokenize_respaced {e e' : String} (h : Respaced e.toList e'.toList) : tokenize e = tokenize e' ∧
    ∀ maxDepth record, (ofExpression maxDepth e).accepts record = (ofExpression maxDepth e').accepts record := by
  have htokens : tokenize e = tokenize e' := tokenizeChars_respaced h
  refine ⟨htokens, ?_⟩
  intro maxDepth record
  simp only [ofExpression, accepts, htokens]

/-- The blanks inside the quotes stay, and one of them in front of the keyword may be a no-break space. -/
theorem tokenize_respaced_quoted :
    Respaced " a == 'x  y'\t \nor b==1".toList "a == 'x  y'\u00a0or b==1  ".toList ∧
      tokenize " a == 'x  y'\t \nor b==1" = tokenize "a == 'x  y'\u00a0or b==1  " := by
  have hlead : Respaced (" ".toList ++ "a == 'x  y'\t \nor b==1".toList) ([] ++ "a == 'x  y'\t \nor b==1".toList) :=
    .leading (by decide)
  have hjoin : Respaced ("a == 'x  y'".toList ++ ("\t \n".toList ++ "or b==1".toList))
      ("a == 'x  y'".toList ++ ("\u00a0".toList ++ "or b==1".toList)) :=
    .between (by decide) (by decide) (by decide) (by decide)
  have htrail : Respaced ("a == 'x  y'\u00a0or b==1".toList ++ []) ("a == 'x  y'\u00a0or b==1".toList ++ "  ".toList) :=
    .trailing (by decide) (by decide)
  have h : Respaced " a == 'x  y'\t \nor b==1".toList "a == 'x  y'\u00a0or b==1  ".toList :=
    .trans hlead (.trans hjoin htrail)
  exact ⟨h, (tokenize_respaced h).1⟩

end DocStore.Query
