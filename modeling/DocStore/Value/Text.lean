import DocStore.Value.Json

/-!
# Values as text

A value as it is shown in a table: strings and timestamps plain, doubles with all their digits and no power of
ten, arrays and objects as JSON on one line.
-/

namespace DocStore.Value

/-- Doubles shown to people: written out in full, a whole number without a point. -/
def doubles : Decimal.Layout where
  tie := .away
  least? := none
  greatest? := none
  wholeTail := ""
  notANumber := "NaN"
  infinity := "inf"

def showFloat (x : Float) : String :=
  String.ofList (doubles.render x)

def text (v : Value) : String :=
  match v with
  | null => "null"
  | bool b => if b then "true" else "false"
  | int n => String.ofList (Decimal.ofInt n.toInt)
  | float x => showFloat x
  | str s => s
  | time t => String.ofList t.render
  | array _ => v.toJson.compact
  | object _ => v.toJson.compact

end DocStore.Value
