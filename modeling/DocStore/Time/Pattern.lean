import DocStore.Decimal.Digits
import DocStore.Text.Blank
import DocStore.Time.Timestamp

/-!
# Patterns of dates and times

A pattern is a row of parts that a text is read by from left to right. There are two ways to read a number: a
strict part takes all its digits and nothing else, a lenient part passes over blanks first, needs only one
digit, and lets a year carry a sign and then have any number of digits.
-/

namespace DocStore.Time

inductive Field where
  | year
  | month
  | day
  | hour
  | minute
  | second
deriving DecidableEq, Repr

inductive Part where
  | number (field : Field) (strict : Bool)
  /-- One of these characters. -/
  | mark (allowed : List Char)
  /-- Any number of blanks. -/
  | gap
  /-- A point and digits, of which nine count, or nothing. -/
  | fraction
  | offset (strict : Bool)
deriving DecidableEq, Repr

abbrev Pattern := List Part

structure Reading where
  year : Int := 0
  month : Nat := 0
  day : Nat := 0
  hour : Nat := 0
  minute : Nat := 0
  second : Nat := 0
  nanos : Nat := 0
  offset : Option Int := none
deriving DecidableEq, Repr

def Field.width : Field → Nat
  | .year => 4
  | _ => 2

def Reading.put (r : Reading) (field : Field) (value : Int) : Option Reading :=
  let within (low high : Int) (r' : Reading) := if low ≤ value ∧ value ≤ high then some r' else none
  match field with
  | .year => some { r with year := value }
  | .month => within 1 12 { r with month := value.toNat }
  | .day => within 1 31 { r with day := value.toNat }
  | .hour => within 0 23 { r with hour := value.toNat }
  | .minute => within 0 59 { r with minute := value.toNat }
  | .second => within 0 60 { r with second := value.toNat }

def leadingDigits (limit : Nat) (cs : List Char) : List Char × List Char :=
  let ds := (cs.take limit).takeWhile Decimal.isDigit
  (ds, cs.drop ds.length)

def takeStrict (field : Field) (cs : List Char) : Option (Int × List Char) :=
  let (ds, rest) := leadingDigits field.width cs
  if ds.length = field.width then some (Decimal.valueOf ds, rest) else none

def takeLenient (field : Field) (cs : List Char) : Option (Int × List Char) :=
  let cs := Text.trimLeft cs
  let anyDigits (cs : List Char) : Option (Nat × List Char) :=
    let ds := cs.takeWhile Decimal.isDigit
    if ds = [] then none else some (Decimal.valueOf ds, cs.drop ds.length)
  match field, cs with
  | .year, '-' :: rest => (anyDigits rest).map fun (n, rest) => (-(n : Int), rest)
  | .year, '+' :: rest => (anyDigits rest).map fun (n, rest) => ((n : Int), rest)
  | _, cs =>
    let (ds, rest) := leadingDigits field.width cs
    if ds = [] then none else some (Decimal.valueOf ds, rest)

def nanosOf (ds : List Char) : Nat :=
  Decimal.valueOf (ds.take 9) * Nat.pow 10 (9 - ds.length)

def takeFraction (cs : List Char) : Option (Nat × List Char) :=
  match cs with
  | '.' :: rest =>
    let ds := rest.takeWhile Decimal.isDigit
    if ds = [] then none else some (nanosOf ds, rest.drop ds.length)
  | cs => some (0, cs)

def takeTwoDigits (cs : List Char) : Option (Nat × List Char) :=
  let (ds, rest) := leadingDigits 2 cs
  if ds.length = 2 then some (Decimal.valueOf ds, rest) else none

def takeSign : List Char → Option (Int × List Char)
  | [] => none
  | c :: rest =>
    if c = '+' then some (1, rest)
    else if c = '-' ∨ c.toNat = 0x2212 then some (-1, rest)
    else none

def skipOffsetMark (strict : Bool) (cs : List Char) : Option (List Char) :=
  if strict then
    match cs with
    | ':' :: rest => some rest
    | _ => none
  else some (cs.dropWhile fun c => c = ':' || Text.isBlank c)

/-- An offset in minutes: a sign, two digits of hours and two of minutes, less than a day in all. -/
def takeHoursMinutes (strict : Bool) (cs : List Char) : Option (Int × List Char) := do
  let (sign, cs) ← takeSign cs
  let (hours, cs) ← takeTwoDigits cs
  let cs ← skipOffsetMark strict cs
  let (minutes, cs) ← takeTwoDigits cs
  if hours ≤ 23 ∧ minutes ≤ 59 then some (sign * (hours * 60 + minutes : Nat), cs) else none

def takeOffset (strict : Bool) (cs : List Char) : Option (Int × List Char) :=
  if strict then
    match cs with
    | [] => none
    | c :: rest => if c = 'Z' ∨ c = 'z' then some (0, rest) else takeHoursMinutes true cs
  else takeHoursMinutes false (Text.trimLeft cs)

def Part.read (part : Part) (r : Reading) (cs : List Char) : Option (Reading × List Char) :=
  match part with
  | .number field strict => do
    let (value, rest) ← if strict then takeStrict field cs else takeLenient field cs
    return (← r.put field value, rest)
  | .mark allowed =>
    match cs with
    | [] => none
    | c :: rest => if c ∈ allowed then some (r, rest) else none
  | .gap => some (r, Text.trimLeft cs)
  | .fraction => (takeFraction cs).map fun (nanos, rest) => ({ r with nanos }, rest)
  | .offset strict => (takeOffset strict cs).map fun (east, rest) => ({ r with offset := some east }, rest)

def Pattern.read : Pattern → Reading → List Char → Option Reading
  | [], r, [] => some r
  | [], _, _ :: _ => none
  | part :: parts, r, cs => do
    let (r, rest) ← part.read r cs
    Pattern.read parts r rest

end DocStore.Time
