/-
  Points in time and stretches of time, to the nanosecond. There is a last point in time,
  the end of the year 9999: a point beyond it cannot be represented.
-/
namespace PolicyTree

/-- A stretch of time, in nanoseconds; it may be negative. -/
structure Duration where
  nanoseconds : Int
  deriving DecidableEq, Repr

namespace Duration

def ofSeconds (seconds : Int) : Duration := ⟨seconds * 1000000000⟩

def zero : Duration := ⟨0⟩

def isPositive (d : Duration) : Bool := 0 < d.nanoseconds

/-- The whole seconds, without the rest. -/
def wholeSeconds (d : Duration) : Int := d.nanoseconds.tdiv 1000000000

end Duration

/-- A point in time, in nanoseconds since the start of the year 1970. -/
structure Instant where
  nanoseconds : Int
  deriving DecidableEq, Repr

namespace Instant

def isBefore (a b : Instant) : Bool := a.nanoseconds < b.nanoseconds

/-- The last nanosecond of the year 9999. -/
def latest : Instant := ⟨253402300799999999999⟩

/-- The point that lies a stretch of time later, if it can be represented. -/
def later? (i : Instant) (d : Duration) : Option Instant :=
  if i.nanoseconds + d.nanoseconds ≤ latest.nanoseconds then some ⟨i.nanoseconds + d.nanoseconds⟩
  else none

end Instant

/-- The readings of a clock: `clock n` is what it shows when it is read for the `n`-th time. -/
abbrev Clock := Nat → Instant

end PolicyTree
