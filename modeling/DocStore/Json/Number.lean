import DocStore.Decimal.Digits
import DocStore.Json.Fault

/-!
# Numbers in a JSON text

A number is a whole part without needless zeros, then perhaps a fraction and a power of ten. Without those two
it is exact if 64 bits hold it. Otherwise it is a double: as many of its digits as fit into 64 bits, multiplied or
divided by a power of ten, each step rounded. That is the nearest double for numbers of moderate length and
size, and may miss it by one place for others.
-/

namespace DocStore.Json

structure Literal where
  negative : Bool
  whole : List Char
  fraction : List Char
  /-- Whether the power of ten is negative, and its digits. -/
  power : Option (Bool × List Char)
  hasFraction : Bool

def spanDigits (cs : List Char) : List Char × List Char :=
  (cs.takeWhile Decimal.isDigit, cs.dropWhile Decimal.isDigit)

theorem spanDigits_length_le {cs ds rest : List Char} (h : spanDigits cs = (ds, rest)) :
    rest.length ≤ cs.length := by
  cases h
  exact (List.dropWhile_suffix Decimal.isDigit).length_le

def scanWhole (cs : List Char) : Except Fault (List Char × List Char) :=
  match cs with
  | [] => .error ⟨.endInValue, [], 0⟩
  | '0' :: rest =>
    match rest with
    | [] => .ok (['0'], [])
    | c :: _ => if Decimal.isDigit c then .error ⟨.invalidNumber, rest, 1⟩ else .ok (['0'], rest)
  | c :: _ => if Decimal.isDigit c then .ok (spanDigits cs) else .error ⟨.invalidNumber, cs, 1⟩

def scanFraction (cs : List Char) : Except Fault (Option (List Char) × List Char) :=
  match cs with
  | '.' :: rest =>
    match spanDigits rest with
    | ([], []) => .error ⟨.endInValue, [], 0⟩
    | ([], rest) => .error ⟨.invalidNumber, rest, 1⟩
    | (ds, rest) => .ok (some ds, rest)
  | _ => .ok (none, cs)

def scanPower (cs : List Char) : Except Fault (Option (Bool × List Char) × List Char) :=
  match cs with
  | [] => .ok (none, [])
  | c :: rest =>
    if c = 'e' ∨ c = 'E' then
      let (negative, rest) := match rest with
        | '+' :: rest => (false, rest)
        | '-' :: rest => (true, rest)
        | rest => (false, rest)
      match spanDigits rest with
      | ([], []) => .error ⟨.endInValue, [], 0⟩
      | ([], rest) => .error ⟨.invalidNumber, rest, 1⟩
      | (ds, rest) => .ok (some (negative, ds), rest)
    else .ok (none, cs)

def scanLiteral (negative : Bool) (cs : List Char) : Except Fault (Literal × List Char) := do
  let (whole, cs) ← scanWhole cs
  let (fraction, cs) ← scanFraction cs
  let (power, cs) ← scanPower cs
  return (⟨negative, whole, fraction.getD [], power, fraction.isSome⟩, cs)

def maxSignificand : Nat := UInt64.size - 1

/-- Appends digits to a number as long as the result does not exceed `limit`; the digits left over. -/
def gather (limit : Nat) (n : Nat) : List Char → Nat × List Char
  | [] => (n, [])
  | d :: ds =>
    let next := n * 10 + Decimal.digitValue d
    if next ≤ limit then gather limit next ds else (n, d :: ds)

def tenTo (n : Nat) : Float :=
  Float.ofScientific 1 false n

/-- A double times a power of ten, in steps of at most 308; nothing if it becomes too large. -/
def scale (x : Float) (power : Int) : Option Float :=
  if power.natAbs ≤ 308 then
    if 0 ≤ power then
      let y := x * tenTo power.natAbs
      if y.isInf then none else some y
    else some (x / tenTo power.natAbs)
  else if x == 0.0 then some x
  else if 0 ≤ power then none
  else scale (x / tenTo 308) (power + 308)
termination_by (-power).toNat
decreasing_by omega

def signedFloat (negative : Bool) (x : Float) : Float :=
  if negative then -x else x

def wholeNumber (negative : Bool) (n : Nat) : Json :=
  if negative then
    if 0 < n ∧ n ≤ 0x8000000000000000 then .neg (Int64.ofInt (-n)) else .float (-n.toUInt64.toFloat)
  else .nat n.toUInt64

/-- Why a power of ten cannot be applied: it is too large at the digits that are left over. -/
inductive Applied where
  | value (x : Float)
  | outOfRange (unread : Nat)

/-- The double `n · 10 ^ (shift + power)`. A power beyond 32 bits leaves only zero, or is too large at once. -/
def applyPower (n : Nat) (shift : Int) (power : Option (Bool × List Char)) : Applied :=
  let finish (p : Int) : Applied :=
    match scale n.toUInt64.toFloat p with
    | some x => .value x
    | none => .outOfRange 0
  match power with
  | none => finish shift
  | some (negative, ds) =>
    match gather 0x7FFFFFFF 0 ds with
    | (p, []) => finish (if negative then shift - p else shift + p)
    | (_, _ :: unread) => if n ≠ 0 ∧ !negative then .outOfRange unread.length else .value 0.0

/-- The value of a written number, or the number of characters unread when it turned out too large. -/
def Literal.value (lit : Literal) : Except Nat Json :=
  let (n, unread) := gather maxSignificand 0 lit.whole
  if unread = [] ∧ !lit.hasFraction ∧ lit.power.isNone then .ok (wholeNumber lit.negative n)
  else
    let (n, unused) := gather maxSignificand n lit.fraction
    let shift : Int := unread.length - (lit.fraction.length - unused.length : Nat)
    match applyPower n shift lit.power with
    | .value x => .ok (.float (signedFloat lit.negative x))
    | .outOfRange unread => .error unread

end DocStore.Json
