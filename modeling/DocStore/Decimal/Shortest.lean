import DocStore.Decimal.Digits

/-!
# The fewest digits that read back

A finite double is a whole number times a power of two, and every real number closer to it than to its
neighbours reads back as it. Of the decimals in that interval this module picks one with the fewest digits, and
of those the nearest. All comparisons are between whole numbers.
-/

namespace DocStore.Decimal

/-- The number `digits · 10 ^ exponent`. -/
structure Scaled where
  digits : Nat
  exponent : Int
deriving DecidableEq, Repr

inductive Tie where
  | toEven
  | away
deriving DecidableEq, Repr

/-- The size of a finite double: `mantissa · 2 ^ exponent`, and whether the gap below it is half the gap above. -/
structure Binary where
  mantissa : Nat
  exponent : Int
  narrowBelow : Bool
deriving DecidableEq, Repr

def Binary.ofFloat (x : Float) : Binary :=
  let bits := x.toBits.toNat
  let fraction : Nat := bits % Nat.pow 2 52
  let power : Nat := bits / Nat.pow 2 52 % Nat.pow 2 11
  if power = 0 then ⟨fraction, -1074, false⟩
  else ⟨Nat.pow 2 52 + fraction, (power : Int) - 1075, decide (fraction = 0 ∧ power > 1)⟩

def isNegative (x : Float) : Bool :=
  x.toBits.toNat / Nat.pow 2 63 = 1

/-- `n · base ^ e` as a fraction. -/
def scaleUp (base : Nat) (n : Nat) (e : Int) : Nat × Nat :=
  if 0 ≤ e then (n * Nat.pow base e.toNat, 1) else (n, Nat.pow base (-e).toNat)

/-- The nearest decimal with unit `10 ^ unit` inside the interval that reads back as `b`, if there is one. -/
def onGrid (tie : Tie) (b : Binary) (unit : Int) : Option Scaled :=
  -- four times the value, over the denominator `den`, in units of the grid
  let (n, d) := scaleUp 2 1 b.exponent
  let (n', d') := scaleUp 10 1 (-unit)
  let num := b.mantissa * 4 * n * n'
  let den := d * d' * 4
  let half := 2 * n * n'
  let below := if b.narrowBelow then n * n' else half
  let closed := b.mantissa % 2 = 0
  let q := num / den
  let lowGap := num - q * den
  let highGap := (q + 1) * den - num
  let low := lowGap < below ∨ (closed ∧ lowGap = below)
  let high := highGap < half ∨ (closed ∧ highGap = half)
  if low ∧ high then
    if lowGap < highGap then some ⟨q, unit⟩
    else if highGap < lowGap then some ⟨q + 1, unit⟩
    else match tie with
      | .away => some ⟨q + 1, unit⟩
      | .toEven => some ⟨if q % 2 = 0 then q else q + 1, unit⟩
  else if low then some ⟨q, unit⟩
  else if high then some ⟨q + 1, unit⟩
  else none

def search (tie : Tie) (b : Binary) (unit : Int) : Nat → Scaled
  | 0 => ⟨0, 0⟩
  | steps + 1 => (onGrid tie b unit).getD (search tie b (unit - 1) steps)

/-- The power of ten just above the value, or one more. -/
def magnitude (b : Binary) : Int :=
  let (n, d) := scaleUp 2 b.mantissa b.exponent
  if n < d then 1 - (digitsOf (d / n)).length + 1 else (digitsOf (n / d)).length

def trimZeros (s : Scaled) : Scaled :=
  if s.digits ≠ 0 ∧ s.digits % 10 = 0 then trimZeros ⟨s.digits / 10, s.exponent + 1⟩ else s
termination_by s.digits
decreasing_by omega

def shortest (tie : Tie) (x : Float) : Scaled :=
  let b := Binary.ofFloat x
  if b.mantissa = 0 then ⟨0, 0⟩
  else trimZeros (search tie b (magnitude b) 20)

end DocStore.Decimal
