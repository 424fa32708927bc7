import DocStore.Query.Literal
import DocStore.Query.Operator
import DocStore.Query.Path
import DocStore.Text.Lowercase

/-!
# Conditions

Whether the value at a path stands in the relation of an operator to a literal. Dates are compared first, if the
literal is one and the stored string reads as one; else equality is that of values, order is that of numbers, and
`contains` looks for a text inside another without regard to case. What an operator is not defined for is false.
-/

namespace DocStore.Query

/-- The date that a literal stands for behind an operator; a quoted date only takes part in ordering. -/
def dateFor? (op : Operator) : Value → Option Time.Timestamp
  | .time t => if op.isComparison then some t else none
  | .str s => if op.isOrdering then Time.Timestamp.ofString? s else none
  | _ => none

def storedDate? : Value → Option Time.Timestamp
  | .str s => Time.Timestamp.ofString? s
  | _ => none

/-- The outcome for two dates; an order needs dates of one kind. -/
def compareDates? (op : Operator) (stored literal : Time.Timestamp) : Option Bool :=
  match op with
  | .eq => some (stored.same literal)
  | .ne => some (!stored.same literal)
  | .contains => none
  | op => (stored.compare? literal).map op.accepts

def byDate? (op : Operator) (stored literal : Value) : Option Bool := do
  let expected ← dateFor? op literal
  let actual ← storedDate? stored
  compareDates? op actual expected

def compareFloats? (x y : Float) : Option Ordering :=
  if x < y then some .lt
  else if x == y then some .eq
  else if x > y then some .gt
  else none

/-- The order of two numbers: exact for integers, that of doubles else. -/
def compareNumbers? (stored literal : Value) : Option Ordering :=
  match stored, literal with
  | .int m, .int n => some (compare m.toInt n.toInt)
  | stored, literal => do compareFloats? (← stored.toFloat?) (← literal.toFloat?)

def occursIn (needle : List Char) : List Char → Bool
  | [] => needle.isEmpty
  | c :: rest => needle.isPrefixOf (c :: rest) || occursIn needle rest

def containsText (stored literal : Value) : Bool :=
  match stored, literal with
  | .str haystack, .str needle => occursIn (Text.toLower needle).toList (Text.toLower haystack).toList
  | _, _ => false

def byValue (op : Operator) (stored literal : Value) : Bool :=
  match op with
  | .eq => stored.same literal
  | .ne => !stored.same literal
  | .contains => containsText stored literal
  | op => (compareNumbers? stored literal).any op.accepts

def satisfies (op : Operator) (stored literal : Value) : Bool :=
  (byDate? op stored literal).getD (byValue op stored literal)

/-- Whether the value at a path does; nothing holds of a field that is not there. -/
def holdsAt (record : Record) (path : String) (op : Operator) (literal : Value) : Bool :=
  (resolve record path).any fun stored => satisfies op stored literal

/-- A path, an operator and a literal; without a known operator the condition is false. -/
structure Condition where
  path : String
  operator : Option Operator
  literal : Value

def Condition.holds (condition : Condition) (record : Record) : Bool :=
  condition.operator.any fun op => holdsAt record condition.path op condition.literal

end DocStore.Query
