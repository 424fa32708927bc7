import DocStore.Decimal.Shortest

/-!
# How a double is written

The digits of a double are chosen in `DocStore.Decimal.Shortest`; here they are laid out. The decisions of a
format are one record: how ties go, which powers of ten are written out, whether a whole number keeps a
fraction, and what stands for the values that have no digits.
-/

namespace DocStore.Decimal

structure Layout where
  tie : Tie
  /-- The least power of ten written out in full, if there is one. -/
  least? : Option Int
  /-- The greatest power of ten written out in full, if there is one. -/
  greatest? : Option Int
  wholeTail : String
  notANumber : String
  infinity : String

/-- Digits with the point put in: `point` of them, or fewer, stand before it. -/
def Layout.positional (layout : Layout) (ds : List Char) (point : Int) : List Char :=
  if point ≤ 0 then '0' :: '.' :: (List.replicate (-point).toNat '0' ++ ds)
  else if ds.length ≤ point.toNat then
    ds ++ List.replicate (point.toNat - ds.length) '0' ++ layout.wholeTail.toList
  else ds.take point.toNat ++ '.' :: ds.drop point.toNat

def scientific (ds : List Char) (power : Int) : List Char :=
  let fraction := ds.drop 1
  ds.take 1 ++ (if fraction.isEmpty then [] else '.' :: fraction) ++
    'e' :: (if power < 0 then '-' else '+') :: digitsOf power.natAbs

def Layout.render (layout : Layout) (x : Float) : List Char :=
  if x.isNaN then layout.notANumber.toList
  else
    let sign := if isNegative x then ['-'] else []
    if x.isInf then sign ++ layout.infinity.toList
    else
      let s := shortest layout.tie x
      let ds := digitsOf s.digits
      let power := s.exponent + ds.length - 1
      let inFull := s.digits = 0 ∨ layout.least?.all (· ≤ power) ∧ layout.greatest?.all (power ≤ ·)
      sign ++ (if inFull then layout.positional ds (power + 1) else scientific ds power)

end DocStore.Decimal
