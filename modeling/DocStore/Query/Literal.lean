import DocStore.Decimal.Reading
import DocStore.Text.Blank
import DocStore.Time.Reading
import DocStore.Value.Basic

/-!
# Literals

The value that a piece of text in a query denotes: a string if it is in single quotes, else an integer, a
double or a timestamp if it reads as one, and else the text itself.
-/

namespace DocStore.Query

def isQuoted (cs : List Char) : Bool :=
  cs.head? = some '\'' && cs.getLast? = some '\''

def coerceChars (cs : List Char) : Value :=
  let cs := Text.trim cs
  if isQuoted cs then .str (String.ofList (cs.drop 1).dropLast)
  else
    match Decimal.readInt? cs, Decimal.readFloat? cs, Time.Timestamp.read? cs with
    | some n, _, _ => .int n
    | none, some x, _ => .float x
    | none, none, some t => .time t
    | none, none, none => .str (String.ofList cs)

def coerce (text : String) : Value :=
  coerceChars text.toList

end DocStore.Query
