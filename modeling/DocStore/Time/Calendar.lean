/-!
# Dates and clock times

Dates of the Gregorian calendar, also before its introduction, and times of a day. A clock may show a leap
second: then its second is 59 and its nanoseconds are at least a thousand million. Days are counted from the
first of January of the year 1, which has the number 0.
-/

namespace DocStore.Time

structure Date where
  year : Int
  month : Nat
  day : Nat
deriving DecidableEq, Repr

structure Clock where
  hour : Nat
  minute : Nat
  second : Nat
  nanos : Nat
deriving DecidableEq, Repr

structure Moment where
  date : Date
  clock : Clock
deriving DecidableEq, Repr

def isLeapYear (year : Int) : Bool :=
  year % 4 = 0 && (year % 100 ≠ 0 || year % 400 = 0)

def daysInMonth (year : Int) (month : Nat) : Nat :=
  if month = 2 then (if isLeapYear year then 29 else 28)
  else if month ∈ [4, 6, 9, 11] then 30
  else 31

def daysBefore (year : Int) (month : Nat) : Nat :=
  (List.range (month - 1)).foldl (fun days m => days + daysInMonth year (m + 1)) 0

def minYear : Int := -262143

def maxYear : Int := 262142

def Date.isValid (d : Date) : Bool :=
  minYear ≤ d.year && d.year ≤ maxYear && 1 ≤ d.month && d.month ≤ 12 &&
    1 ≤ d.day && d.day ≤ daysInMonth d.year d.month

/-- Days since the first of January of the year 1. -/
def Date.number (d : Date) : Int :=
  let years := d.year - 1
  365 * years + years / 4 - years / 100 + years / 400 + daysBefore d.year d.month + (d.day - 1 : Int)

def secondsPerDay : Int := 86400

/-- Seconds of the day, a leap second not counted. -/
def Clock.seconds (c : Clock) : Nat :=
  c.hour * 3600 + c.minute * 60 + c.second

def Moment.seconds (m : Moment) : Int :=
  m.date.number * secondsPerDay + m.clock.seconds

end DocStore.Time
