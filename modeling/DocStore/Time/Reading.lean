import DocStore.Time.Pattern

/-!
# Reading timestamps

A timestamp is read by the first pattern that takes its whole text: the strict internet form, then the lenient
forms with an offset, then those without one, and last a bare date, which means its midnight. For the lenient
forms a final `Z` stands for the offset zero. The date has to exist and the instant has to lie in the range of
years.
-/

namespace DocStore.Time

def Pattern.date (strict : Bool) : Pattern :=
  [.number .year strict, .mark ['-'], .number .month strict, .mark ['-'], .number .day strict]

def Pattern.hourMinute (strict : Bool) : Pattern :=
  [.number .hour strict, .mark [':'], .number .minute strict]

def Pattern.hourMinuteSecond (strict : Bool) : Pattern :=
  Pattern.hourMinute strict ++ [.mark [':'], .number .second strict]

def Pattern.internet : Pattern :=
  Pattern.date true ++ [.mark ['T', 't', ' ']] ++ Pattern.hourMinuteSecond true ++ [.fraction, .offset true]

def Pattern.unzoned : List Pattern :=
  let mark : Pattern := Pattern.date false ++ [.mark ['T']]
  let gap : Pattern := Pattern.date false ++ [.gap]
  [mark ++ Pattern.hourMinuteSecond false,
    mark ++ Pattern.hourMinuteSecond false ++ [.fraction],
    gap ++ Pattern.hourMinuteSecond false,
    gap ++ Pattern.hourMinuteSecond false ++ [.fraction],
    mark ++ Pattern.hourMinute false,
    gap ++ Pattern.hourMinute false]

/-- The clock that a reading shows; the second 60 is a leap second. -/
def Reading.clock (r : Reading) : Clock :=
  if r.second = 60 then ⟨r.hour, r.minute, 59, r.nanos + 1000000000⟩
  else ⟨r.hour, r.minute, r.second, r.nanos⟩

def Reading.moment? (r : Reading) : Option Moment :=
  let date : Date := ⟨r.year, r.month, r.day⟩
  if date.isValid then some ⟨date, r.clock⟩ else none

def inRange (seconds : Int) : Bool :=
  (⟨minYear, 1, 1⟩ : Date).number * secondsPerDay ≤ seconds &&
    seconds < (⟨maxYear + 1, 1, 1⟩ : Date).number * secondsPerDay

def Reading.timestamp? (r : Reading) : Option Timestamp := do
  let moment ← r.moment?
  match r.offset with
  | none => return .naive moment
  | some offset =>
    let t := Timestamp.aware moment offset
    if inRange t.seconds then return t else none

def Pattern.timestamp? (p : Pattern) (cs : List Char) : Option Timestamp :=
  (p.read {} cs).bind Reading.timestamp?

def withOffset (cs : List Char) : List Char :=
  match cs.getLast? with
  | none => cs
  | some c => if c = 'Z' ∨ c = 'z' then cs.dropLast ++ ['+', '0', '0', ':', '0', '0'] else cs

def Pattern.lenient : List Pattern :=
  Pattern.unzoned.map (· ++ [.offset false]) ++ Pattern.unzoned ++ [Pattern.date false]

def Timestamp.read? (cs : List Char) : Option Timestamp :=
  let cs := Text.trim cs
  (Pattern.internet.timestamp? cs).or (Pattern.lenient.findSome? (·.timestamp? (withOffset cs)))

def Timestamp.ofString? (s : String) : Option Timestamp :=
  Timestamp.read? s.toList

end DocStore.Time
