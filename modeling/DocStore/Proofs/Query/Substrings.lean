import DocStore.Proofs.Text.Lowercase
import DocStore.Query.Condition

/-!
# Parts of a stored text

`contains` looks for one small form inside another, so it finds a part of a stored text wherever the part keeps its small
form inside the text. It always does but for capital sigmas that end a word in one of the two and not in the other
(`contains_part`).
-/

namespace DocStore.Query

open Text (SigmasAgree lowerFrom lowerWithin)

theorem occursIn_iff (needle cs : List Char) : occursIn needle cs = true ↔ needle <:+: cs := by
  induction cs with
  | nil => simp [occursIn]
  | cons c cs ih => rw [occursIn, Bool.or_eq_true, List.isPrefixOf_iff_prefix, ih, List.infix_cons_iff]

section
variable {a n b n' : List Char}

theorem lowerFrom_part (a n b : List Char) :
    lowerFrom [] (a ++ n ++ b) = lowerWithin [] (n ++ b) a ++ (lowerWithin a.reverse b n ++ lowerFrom (a ++ n).reverse b) := by
  rw [List.append_assoc, Text.lowerFrom_append, Text.lowerFrom_append]
  simp

theorem containsText_of_lowerWithin (h : lowerWithin a.reverse b n = lowerFrom [] n') :
    containsText (.str (String.ofList (a ++ n ++ b))) (.str (String.ofList n')) = true := by
  unfold containsText Text.toLower
  simp only [String.toList_ofList]
  rw [occursIn_iff, lowerFrom_part, h]
  exact ⟨_, _, List.append_assoc ..⟩

end

/-- A part `n` of a stored text, its ASCII letters in any case, has the small form there that it has on its own just if each
capital sigma in it ends a word of the part when it ends a word of the text. Then `contains` finds it. -/
theorem contains_part {record : Record} {path h n n' : String} {a b : List Char}
    (hstored : resolve record path = some (.str h)) (hpart : h.toList = a ++ n.toList ++ b)
    (hcase : n'.toList.map Char.toLower = n.toList.map Char.toLower) :
    (lowerWithin a.reverse b n.toList = (Text.toLower n').toList ↔ SigmasAgree a.reverse [] b n.toList) ∧
      (SigmasAgree a.reverse [] b n.toList → holdsAt record path .contains (.str n') = true) := by
  have hsmall : (Text.toLower n').toList = lowerFrom [] n.toList := by
    rw [Text.toLower, String.toList_ofList]
    exact Text.lowerFrom_congr rfl hcase
  rw [hsmall]
  refine ⟨Text.lowerWithin_eq_iff, ?_⟩
  intro hsigmas
  have hform : lowerWithin a.reverse b n.toList = lowerFrom [] n'.toList := by
    rw [Text.lowerWithin_eq_iff.mpr hsigmas]
    exact Text.lowerFrom_congr rfl hcase.symm
  have hfound := containsText_of_lowerWithin hform
  rw [← hpart, String.ofList_toList, String.ofList_toList] at hfound
  rw [holdsAt, hstored]
  exact hfound

/-- The end of a word is found with what follows it. The beginning of one is not, if it was cut behind a capital sigma. -/
theorem contains_part_word :
    (SigmasAgree "ΟΔ".toList.reverse [] "b".toList "ΟΣ A".toList ∧
      holdsAt (.ofList [("w", .str "ΟΔΟΣ Ab")]) "w" .contains (.str "ΟΣ a") = true) ∧
    ¬ SigmasAgree [] [] "Α".toList "ΑΣ".toList ∧
      holdsAt (.ofList [("w", .str "ΑΣΑ")]) "w" .contains (.str "ΑΣ") = false := by
  have hend := @contains_part (.ofList [("w", .str "ΟΔΟΣ Ab")]) "w" "ΟΔΟΣ Ab" "ΟΣ A" "ΟΣ a" "ΟΔ".toList "b".toList rfl
    (by decide +kernel) (by decide +kernel)
  have hbeginning := @contains_part (.ofList [("w", .str "ΑΣΑ")]) "w" "ΑΣΑ" "ΑΣ" "ΑΣ" [] "Α".toList rfl
    (by decide +kernel) rfl
  have hagree := hend.1.mp (by decide +kernel)
  refine ⟨⟨hagree, hend.2 hagree⟩, ?_, by decide +kernel⟩
  intro h
  exact absurd (hbeginning.1.mpr h) (by decide +kernel)

end DocStore.Query
