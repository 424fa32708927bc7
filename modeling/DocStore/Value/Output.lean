import DocStore.Json.Writer
import DocStore.Value.Json

/-!
# Values handed to an output

A value can be written without a JSON tree in between. It hands its pieces to an output, which makes one result out of
them: a tree (`Output.tree`) or a text (`Output.text`). As only the piece is handed over and not its kind, a timestamp
is handed over as its text.
-/

namespace DocStore

structure Output (α : Type) where
  null : α
  bool : Bool → α
  int : Int64 → α
  float : Float → α
  str : String → α
  array : List α → α
  object : List (String × α) → α

namespace Value

variable {α : Type}

mutual

def write (out : Output α) : Value → α
  | null => out.null
  | bool b => out.bool b
  | int n => out.int n
  | float x => out.float x
  | str s => out.str s
  | time t => out.str (String.ofList t.render)
  | array items => out.array (writeItems out items)
  | object fields => out.object (writeFields out fields)

def writeItems (out : Output α) : List Value → List α
  | [] => []
  | v :: rest => write out v :: writeItems out rest

def writeFields (out : Output α) : List (String × Value) → List (String × α)
  | [] => []
  | (name, v) :: rest => (name, write out v) :: writeFields out rest

end

end Value

namespace Output

/-- JSON trees. A double without digits is null. -/
def tree : Output Json where
  null := .null
  bool := .bool
  int := Value.ofInt64
  float x := if x.isFinite then .float x else .null
  str := .str
  array := .array
  object := .object

def text : Output (Json.Form → List Char) where
  null _ := ['n', 'u', 'l', 'l']
  bool b _ := if b then ['t', 'r', 'u', 'e'] else ['f', 'a', 'l', 's', 'e']
  int n _ := Decimal.ofInt n.toInt
  float x _ := Json.renderFloat x
  str s _ := Json.renderString s
  array items form := form.enclose '[' ']' (items.map fun item => item form.deeper)
  object members form := form.enclose '\x7b' '\x7d' <| members.map fun (name, item) =>
    Json.renderString name ++ form.deeper.colon ++ item form.deeper

end Output

end DocStore
