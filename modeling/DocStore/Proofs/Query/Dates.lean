import DocStore.Proofs.Query.Literals
import DocStore.Proofs.Query.Outcome

/-!
# Dates in quotes

Where an order is asked for, a date may as well stand in quotes: the quoted text stands for the same date, and neither of
the two literals is a number (`outcome?_str`). So quotes never change an answer of `>`, `<`, `>=` and `<=`
(`ordering_ignores_quotes`); behind `==` and `!=` they do, as quoted text is only equal to itself.
-/

namespace DocStore.Query

open Text (trim)

section
variable {cs : List Char} {s : String} {date : Time.Timestamp} {stored : Value}

/-! ## The date that a literal denotes -/

theorem read?_trim (cs : List Char) : Time.Timestamp.read? (trim cs) = Time.Timestamp.read? cs := by
  rw [Time.Timestamp.read?, Time.Timestamp.read?, trim_trim]

theorem read?_of_coerceChars (h : coerceChars cs = .time date) : Time.Timestamp.read? cs = some date := by
  unfold coerceChars at h
  dsimp only at h
  split at h
  · cases h
  · split at h
    · cases h
    · cases h
    · rename_i hread
      cases h
      rw [← read?_trim]
      exact hread
    · cases h

theorem coerce_quoted (t : String) : coerce ("'" ++ t ++ "'") = .str t := by
  have htext : ("'" ++ t ++ "'").toList = '\'' :: (t.toList ++ ['\'']) := by simp
  rw [coerce, htext, coerceChars_quoted, String.ofList_toList]

/-! ## Both literals under an order -/

theorem compareNumbers?_of_toFloat? {literal : Value} (h : literal.toFloat? = none) :
    compareNumbers? stored literal = none := by
  unfold compareNumbers?
  split
  · cases h
  · cases stored.toFloat? with
    | none => rfl
    | some x => simp [h]

/-- A text that reads as a date is compared like the date. -/
theorem outcome?_str (h : Time.Timestamp.ofString? s = some date) :
    outcome? stored (.str s) = outcome? stored (.time date) := by
  have hdate : literalDate? (.str s) = literalDate? (.time date) := h
  rw [outcome?, outcome?, dateOutcome?, dateOutcome?, hdate, compareNumbers?_of_toFloat? rfl, compareNumbers?_of_toFloat? rfl]

end

/-- A text that denotes a date may stand in quotes: it is a string then, but the operators of order answer the same for
every record and every path. -/
theorem ordering_ignores_quotes {t : String} {date : Time.Timestamp} (h : coerce t = .time date) :
    coerce ("'" ++ t ++ "'") = .str t ∧
      ∀ op : Operator, op.isOrdering = true → ∀ (record : Record) (path : String),
        holdsAt record path op (coerce ("'" ++ t ++ "'")) = holdsAt record path op (coerce t) := by
  refine ⟨coerce_quoted t, ?_⟩
  intro op hop record path
  have hread : Time.Timestamp.ofString? t = some date := read?_of_coerceChars h
  rw [coerce_quoted, h, holdsAt, holdsAt]
  congr 1
  funext stored
  rw [satisfies_of_isOrdering hop, satisfies_of_isOrdering hop, outcome?_str hread]

/-- A date with blanks around it, against a later one and against a number. -/
theorem ordering_ignores_quotes_blanks :
    coerce " 2025-08-01 " = .time (.naive ⟨⟨2025, 8, 1⟩, ⟨0, 0, 0, 0⟩⟩) ∧
      holdsAt (.ofList [("d", .str "2025-08-15"), ("n", .int 1)]) "d" .gt (coerce "' 2025-08-01 '") = true ∧
      holdsAt (.ofList [("d", .str "2025-08-15"), ("n", .int 1)]) "n" .gt (coerce "' 2025-08-01 '") = false := by
  have hdate : coerce " 2025-08-01 " = .time (.naive ⟨⟨2025, 8, 1⟩, ⟨0, 0, 0, 0⟩⟩) := by rfl
  have hquotes : "' 2025-08-01 '" = "'" ++ " 2025-08-01 " ++ "'" := by decide
  obtain ⟨-, hsame⟩ := ordering_ignores_quotes hdate
  refine ⟨hdate, ?_, ?_⟩
  · rw [hquotes, hsame .gt rfl, hdate]
    rfl
  · rw [hquotes, hsame .gt rfl, hdate]
    rfl

end DocStore.Query
