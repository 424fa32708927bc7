import DocStore.Decimal.Digits
import DocStore.Time.Timestamp

/-!
# Writing timestamps

A timestamp is written as date, `T` and clock, and its offset if it has one. A year outside the four-digit range
carries a sign. A fraction has as many groups of three digits as it needs, and a leap second is the second 60.
-/

namespace DocStore.Time

def renderYear (year : Int) : List Char :=
  if 0 ≤ year ∧ year ≤ 9999 then Decimal.padded 4 year.natAbs
  else (if year < 0 then '-' else '+') :: Decimal.padded 4 year.natAbs

def Date.render (d : Date) : List Char :=
  renderYear d.year ++ '-' :: Decimal.padded 2 d.month ++ '-' :: Decimal.padded 2 d.day

def renderFraction (nanos : Nat) : List Char :=
  if nanos = 0 then []
  else if nanos % 1000000 = 0 then '.' :: Decimal.padded 3 (nanos / 1000000)
  else if nanos % 1000 = 0 then '.' :: Decimal.padded 6 (nanos / 1000)
  else '.' :: Decimal.padded 9 nanos

def Clock.render (c : Clock) : List Char :=
  let leap := c.nanos / 1000000000
  Decimal.padded 2 c.hour ++ ':' :: Decimal.padded 2 c.minute ++ ':' :: Decimal.padded 2 (c.second + leap) ++
    renderFraction (c.nanos % 1000000000)

def renderOffset (offset : Int) : List Char :=
  (if offset < 0 then '-' else '+') :: Decimal.padded 2 (offset.natAbs / 60) ++
    ':' :: Decimal.padded 2 (offset.natAbs % 60)

def Moment.render (m : Moment) : List Char :=
  m.date.render ++ 'T' :: m.clock.render

def Timestamp.render : Timestamp → List Char
  | naive m => m.render
  | aware m offset => m.render ++ renderOffset offset

end DocStore.Time
