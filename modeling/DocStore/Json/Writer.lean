import DocStore.Decimal.Notation
import DocStore.Json.Tree

/-!
# Writing JSON

A tree as text, either on one line without blanks or with one item on a line, indented by a number of spaces
for each level. An empty array or object stays together in both forms.
-/

namespace DocStore.Json

/-- Doubles in JSON: a whole number keeps `.0`, and powers of ten below -5 or above 15 are written as such. -/
def doubles : Decimal.Layout where
  tie := .toEven
  least? := some (-5)
  greatest? := some 15
  wholeTail := ".0"
  notANumber := "null"
  infinity := "null"

/-- A double in JSON, which has no form for a value without digits. -/
def renderFloat (x : Float) : List Char :=
  if x.isFinite then doubles.render x else ['n', 'u', 'l', 'l']

def hexDigit (n : Nat) : Char :=
  if n < 10 then Char.ofNat ('0'.toNat + n) else Char.ofNat ('a'.toNat + (n - 10))

def escapeChar (c : Char) : List Char :=
  if c = '"' then ['\\', '"']
  else if c = '\\' then ['\\', '\\']
  else if c = '\n' then ['\\', 'n']
  else if c = '\r' then ['\\', 'r']
  else if c = '\t' then ['\\', 't']
  else if c.toNat = 8 then ['\\', 'b']
  else if c.toNat = 12 then ['\\', 'f']
  else if c.toNat < 32 then ['\\', 'u', '0', '0', hexDigit (c.toNat / 16), hexDigit (c.toNat % 16)]
  else [c]

def renderString (s : String) : List Char :=
  '"' :: s.toList.flatMap escapeChar ++ ['"']

def renderScalar : Json → List Char
  | null => ['n', 'u', 'l', 'l']
  | bool true => ['t', 'r', 'u', 'e']
  | bool false => ['f', 'a', 'l', 's', 'e']
  | nat n => Decimal.digitsOf n.toNat
  | neg n => Decimal.ofInt n.toInt
  | float x => renderFloat x
  | str s => renderString s
  | array _ => ['[', ']']
  | object _ => ['\x7b', '\x7d']

/-- Where the items of a container go: all on one line, or each on its own line, indented by `level` times
`unit` spaces. -/
inductive Form where
  | compact
  | indented (unit level : Nat)

def Form.deeper : Form → Form
  | compact => compact
  | indented unit level => indented unit (level + 1)

def Form.lineBreak : Form → List Char
  | compact => []
  | indented unit level => '\n' :: List.replicate (unit * level) ' '

def Form.colon : Form → List Char
  | compact => [':']
  | indented _ _ => [':', ' ']

def Form.enclose (form : Form) (left right : Char) (items : List (List Char)) : List Char :=
  match items with
  | [] => [left, right]
  | first :: others =>
    left :: (form.deeper.lineBreak ++ first) ++ others.flatMap (',' :: form.deeper.lineBreak ++ ·) ++
      form.lineBreak ++ [right]

mutual

def renderIn (form : Form) : Json → List Char
  | array items => form.enclose '[' ']' (renderItems form.deeper items)
  | object members => form.enclose '\x7b' '\x7d' (renderMembers form.deeper members)
  | j => renderScalar j

def renderItems (form : Form) : List Json → List (List Char)
  | [] => []
  | j :: rest => renderIn form j :: renderItems form rest

def renderMembers (form : Form) : List (String × Json) → List (List Char)
  | [] => []
  | (name, j) :: rest => (renderString name ++ form.colon ++ renderIn form j) :: renderMembers form rest

end

def compact (j : Json) : String :=
  String.ofList (renderIn .compact j)

def indented (unit : Nat) (j : Json) : String :=
  String.ofList (renderIn (.indented unit 0) j)

def pretty (j : Json) : String :=
  j.indented 2

end DocStore.Json
