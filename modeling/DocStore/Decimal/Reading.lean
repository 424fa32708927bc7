import DocStore.Decimal.Digits

/-!
# Reading numbers

A whole text as a 64-bit integer or as a double. An integer is digits with an optional sign. A double may also
have a point, with digits on at least one side of it, and a power of ten, and may be written `inf`, `infinity`
or `nan` in any letter case. The double is the one nearest to the decimal.
-/

namespace DocStore.Decimal

/-- Splits off a sign; true for a minus. -/
def signed : List Char → Bool × List Char
  | '-' :: rest => (true, rest)
  | '+' :: rest => (false, rest)
  | cs => (false, cs)

def readInt? (cs : List Char) : Option Int64 :=
  let (negative, ds) := signed cs
  if ds ≠ [] ∧ ds.all isDigit then
    let i : Int := if negative then -(valueOf ds : Int) else valueOf ds
    if Int64.minValue.toInt ≤ i ∧ i ≤ Int64.maxValue.toInt then some (Int64.ofInt i) else none
  else none

def infinity : Float := 1.0 / 0.0

/-- The double nearest to `n · 10 ^ e`; beyond the greatest one it is infinite. -/
def nearest (n : Nat) (e : Int) : Float :=
  if n = 0 then 0.0
  else
    let power := e + (digitsOf n).length
    if power > 310 then infinity
    else if power < -330 then 0.0
    else if 0 ≤ e then Float.ofScientific (n * Nat.pow 10 e.toNat) false 0
    else Float.ofScientific n true (-e).toNat

/-- The power of ten after an `e`; zero where no text is left. -/
def readPower? : List Char → Option Int
  | [] => some 0
  | c :: cs =>
    if c = 'e' ∨ c = 'E' then
      let (negative, ds) := signed cs
      if ds ≠ [] ∧ ds.all isDigit then some (if negative then -(valueOf ds : Int) else valueOf ds) else none
    else none

def readMagnitude? (cs : List Char) : Option Float :=
  let word := cs.map Char.toLower
  if word = "inf".toList ∨ word = "infinity".toList then some infinity
  else if word = "nan".toList then some (0.0 / 0.0)
  else
    let whole := cs.takeWhile isDigit
    let (fraction, rest) := match cs.dropWhile isDigit with
      | '.' :: rest => (rest.takeWhile isDigit, rest.dropWhile isDigit)
      | rest => ([], rest)
    if whole = [] ∧ fraction = [] then none
    else (readPower? rest).map fun power => nearest (valueOf (whole ++ fraction)) (power - fraction.length)

def readFloat? (cs : List Char) : Option Float :=
  let (negative, rest) := signed cs
  (readMagnitude? rest).map fun x => if negative then -x else x

end DocStore.Decimal
