import DocStore.Text.Width

/-!
# Tables

A table with a header, drawn with lines. Each column is as wide as its widest line, at least one character, with a
blank on both sides; a cell takes as many lines as its text has.
-/

namespace DocStore.Report

structure Table where
  header : List String
  rows : List (List String)

namespace Table

def cellLines (cell : String) : List String :=
  (cell.toList.splitOn '\n').map String.ofList

def cellWidth (cell : String) : Nat :=
  (cellLines cell).foldl (fun w line => max w (Text.width line)) 1

def widths (t : Table) : List Nat :=
  t.rows.foldl (fun ws row => List.zipWith max ws (row.map cellWidth)) (t.header.map cellWidth)

structure Rule where
  left : String
  fill : Char
  cross : String
  right : String

def Rule.top : Rule := ⟨"┌", '─', "┬", "┐"⟩
def Rule.header : Rule := ⟨"╞", '═', "╪", "╡"⟩
def Rule.between : Rule := ⟨"├", '╌', "┼", "┤"⟩
def Rule.bottom : Rule := ⟨"└", '─', "┴", "┘"⟩

def Rule.line (rule : Rule) (ws : List Nat) : String :=
  rule.left ++ String.intercalate rule.cross (ws.map fun w => String.ofList (List.replicate (w + 2) rule.fill)) ++
    rule.right

def pad (w : Nat) (text : String) : String :=
  text ++ String.ofList (List.replicate (w - Text.width text) ' ')

def rowLines (ws : List Nat) (row : List String) : List String :=
  let cells := row.map cellLines
  let height := cells.foldl (fun n lines => max n lines.length) 0
  (List.range height).map fun k =>
    "│ " ++ String.intercalate " ┆ " (List.zipWith (fun w lines => pad w (lines[k]?.getD "")) ws cells) ++ " │"

def lines (t : Table) : List String :=
  let ws := t.widths
  [Rule.top.line ws] ++ rowLines ws t.header ++ [Rule.header.line ws] ++
    ((t.rows.map (rowLines ws)).intersperse [Rule.between.line ws]).flatten ++ [Rule.bottom.line ws]

def text (t : Table) : String :=
  String.intercalate "\n" t.lines

end Table

end DocStore.Report
