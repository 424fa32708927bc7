/-!
# Styled text

Text between a terminal's code for a style and the code that ends all styles. A text that ends a style inside keeps
its own style after that place.
-/

namespace DocStore.Text

inductive Style where
  | heading
  | faint

def Style.start : Style → List Char
  | heading => "\x1b[1;97m".toList
  | faint => "\x1b[2m".toList

def styleEnd : List Char := "\x1b[0m".toList

/-- Puts `more` behind every place where `mark` ends; places do not overlap. -/
def insertAfter (mark more : List Char) : List Char → List Char
  | [] => []
  | c :: rest =>
    if mark ≠ [] ∧ mark.isPrefixOf (c :: rest) then
      mark ++ more ++ insertAfter mark more ((c :: rest).drop mark.length)
    else c :: insertAfter mark more rest
termination_by cs => cs.length
decreasing_by
  · rename_i h
    have := List.length_pos_iff.2 h.1
    simp only [List.length_drop, List.length_cons]
    omega
  · simp

def styled (color : Bool) (style : Style) (text : String) : String :=
  if color then String.ofList (style.start ++ insertAfter styleEnd style.start text.toList ++ styleEnd) else text

end DocStore.Text
