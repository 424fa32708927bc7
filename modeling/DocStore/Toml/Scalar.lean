import DocStore.Decimal.Reading
import DocStore.Time.Calendar
import DocStore.Toml.Tree

/-!
# TOML numbers, dates and times

What a run of letters, digits and signs stands for. Digits may have single underscores between them; decimal numbers
have no needless zeros in front. Dates are checked against the calendar. A run that is laid out as a whole number stands
for one even where its digits denote none, which only matters to those who ask for the number.
-/

namespace DocStore.Toml

/-- The digits of a run in which single underscores may stand between digits. -/
def plainDigits? (digit : Char → Bool) (cs : List Char) : Option (List Char) :=
  let parts := cs.splitOn '_'
  if parts.all fun part => part ≠ [] && part.all digit then some parts.flatten else none

def hexDigit? (c : Char) : Option Nat :=
  if Decimal.isDigit c then some (Decimal.digitValue c)
  else if 'a' ≤ c && c ≤ 'f' then some (c.toNat - 'a'.toNat + 10)
  else if 'A' ≤ c && c ≤ 'F' then some (c.toNat - 'A'.toNat + 10)
  else none

def valueIn? (base : Nat) (ds : List Char) : Option Nat :=
  ds.foldlM (fun n d => do
    let v ← hexDigit? d
    if v < base then some (n * base + v) else none) 0

/-- A number after the sign of its base; without digits it denotes nothing. -/
def based? (base : Nat) (cs : List Char) : Option Toml :=
  if cs = [] then some (.int none)
  else do
    let ds ← plainDigits? (fun c => (hexDigit? c).isSome) cs
    return .int (some (← valueIn? base ds))

def decimalDigits? (cs : List Char) : Option (List Char) := do
  let ds ← plainDigits? Decimal.isDigit cs
  if ds.head? = some '0' ∧ ds.length > 1 then none else some ds

def sign (negative : Bool) (n : Nat) : Int :=
  if negative then -(n : Int) else n

def power? : List Char → Option Int
  | [] => some 0
  | _ :: cs => do
    let (negative, ds) := Decimal.signed cs
    return sign negative (Decimal.valueOf (← plainDigits? Decimal.isDigit ds))

def float? (negative : Bool) (cs : List Char) : Option Toml := do
  let isPower (c : Char) : Bool := c = 'e' || c = 'E'
  let mantissa := cs.takeWhile (!isPower ·)
  let power ← power? (cs.dropWhile (!isPower ·))
  let whole ← decimalDigits? (mantissa.takeWhile (· ≠ '.'))
  let fraction ← match mantissa.dropWhile (· ≠ '.') with
    | [] => some []
    | _ :: ds => plainDigits? Decimal.isDigit ds
  let x := Decimal.nearest (Decimal.valueOf (whole ++ fraction)) (power - fraction.length)
  return .float (if x.isInf then none else some (if negative then -x else x))

/-- Whether a run is laid out as a decimal number in parts: an underscore after its first digits, and a hexadecimal digit
on both sides of every underscore. Nothing else is asked of the parts. -/
def isInParts (cs : List Char) : Bool :=
  let isHex (c : Char) : Bool := (hexDigit? c).isSome
  let parts := cs.splitOn '_'
  cs.head? ≠ some '0' && (cs.takeWhile Decimal.isDigit) ≠ [] && (cs.dropWhile Decimal.isDigit).head? = some '_' &&
    cs.all (fun c => c ≠ '.' && c ≠ 'e' && c ≠ 'E') &&
    parts.tail.all (fun part => part.head?.any isHex) && parts.dropLast.all (fun part => part.getLast?.any isHex)

def number? (cs : List Char) : Option Toml :=
  let (negative, rest) := Decimal.signed cs
  match decimalDigits? rest with
  | some ds => some (.int (some (sign negative (Decimal.valueOf ds))))
  | none =>
    if rest = "inf".toList then some (.float (some (if negative then -Decimal.infinity else Decimal.infinity)))
    else if rest = "nan".toList then some (.float (some (0.0 / 0.0)))
    else if isInParts rest then some (.int none)
    else float? negative rest

/-! ## Dates and times -/

def digits? (count : Nat) (cs : List Char) : Option (Nat × List Char) :=
  let ds := cs.take count
  if ds.length = count ∧ ds.all Decimal.isDigit then some (Decimal.valueOf ds, cs.drop count) else none

def date? (cs : List Char) : Option (List Char) := do
  let (year, cs) ← digits? 4 cs
  let '-' :: cs := cs | none
  let (month, cs) ← digits? 2 cs
  let '-' :: cs := cs | none
  let (day, cs) ← digits? 2 cs
  if (⟨year, month, day⟩ : Time.Date).isValid then some cs else none

def seconds? : List Char → Option (List Char)
  | ':' :: cs => do
    let (second, cs) ← digits? 2 cs
    if second > 60 then none
    else
      match cs with
      | '.' :: cs => if (cs.takeWhile Decimal.isDigit) = [] then none else some (cs.dropWhile Decimal.isDigit)
      | cs => some cs
  | cs => some cs

def hourMinute? (cs : List Char) : Option (List Char) := do
  let (hour, cs) ← digits? 2 cs
  let ':' :: cs := cs | none
  let (minute, cs) ← digits? 2 cs
  if hour ≤ 23 ∧ minute ≤ 59 then some cs else none

def clock? (cs : List Char) : Option (List Char) := do
  seconds? (← hourMinute? cs)

def isOffset : List Char → Bool
  | [] => true
  | c :: cs =>
    if c = 'Z' ∨ c = 'z' then cs.isEmpty
    else (c = '+' || c = '-') && hourMinute? cs = some []

def isMoment (cs : List Char) : Bool :=
  match date? cs with
  | some [] => true
  | some (c :: rest) => (c = 'T' || c = 't' || c = ' ') && (clock? rest).any isOffset
  | none => clock? cs = some []

def scalar? (cs : List Char) : Option Toml :=
  match cs with
  | '0' :: 'x' :: ds => based? 16 ds
  | '0' :: 'o' :: ds => based? 8 ds
  | '0' :: 'b' :: ds => based? 2 ds
  | cs =>
    if cs = "true".toList then some (.bool true)
    else if cs = "false".toList then some (.bool false)
    else if isMoment cs then some (.time (String.ofList cs))
    else number? cs

end DocStore.Toml
