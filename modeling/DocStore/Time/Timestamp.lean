import DocStore.Time.Calendar

/-!
# Timestamps

A timestamp is a moment, with or without the offset of its place from universal time. Timestamps with an
offset are compared by the instant that they name; one with an offset and one without are neither equal nor
in order.
-/

namespace DocStore.Time

inductive Timestamp where
  | naive (moment : Moment)
  /-- The offset is in minutes, positive to the east. -/
  | aware (moment : Moment) (offset : Int)
deriving DecidableEq, Repr

namespace Timestamp

def isAware : Timestamp → Bool
  | naive _ => false
  | aware _ _ => true

/-- Whole seconds on the timeline of its kind; the nanoseconds of the clock come on top. -/
def seconds : Timestamp → Int
  | naive m => m.seconds
  | aware m offset => m.seconds - offset * 60

def nanos : Timestamp → Nat
  | naive m => m.clock.nanos
  | aware m _ => m.clock.nanos

/-- Chronological order, which there is only within a kind. -/
def compare? (a b : Timestamp) : Option Ordering :=
  if a.isAware = b.isAware then some ((compare a.seconds b.seconds).then (compare a.nanos b.nanos)) else none

def same (a b : Timestamp) : Bool :=
  a.compare? b = some .eq

end Timestamp

end DocStore.Time
