import RouterPoll.Time.Calendar

/-!
# Instants

A moment in universal time with nanoseconds, inside the years the calendar of this library covers. A leap second is the second before it with a fraction of one second or more, so instants are ordered by second and then by fraction. Adding seconds leaves a leap second; a sum beyond the last instant does not exist.
-/

namespace RouterPoll

/-- Seconds since 1970 and nanoseconds; from a thousand million nanoseconds on it is a leap second. -/
structure Instant where
  seconds : Int
  nanos : Nat
  deriving DecidableEq, Repr, Inhabited

namespace Instant

def nanosPerSecond : Nat := 1000000000

def secondsPerDay : Nat := 86400

/-- The second in which the covered years begin. -/
def firstSecond : Int := (Time.Date.mk Time.firstYear 1 1).toDays * secondsPerDay

/-- The second in which the covered years end. -/
def lastSecond : Int := ((Time.Date.mk Time.lastYear 12 31).toDays + 1) * secondsPerDay - 1

def inRange (seconds : Int) : Bool := firstSecond ≤ seconds && seconds ≤ lastSecond

def isLeap (instant : Instant) : Bool := nanosPerSecond ≤ instant.nanos

def before (left right : Instant) : Bool :=
  left.seconds < right.seconds || (left.seconds == right.seconds && left.nanos < right.nanos)

/-- The order of instants, for sorting. -/
def notAfter (left right : Instant) : Bool := !right.before left

/-- A whole number of seconds later, if that is still in the covered years. -/
def addSeconds (instant : Instant) (count : Nat) : Option Instant :=
  if count == 0 then some instant
  else
    let seconds := instant.seconds + count
    let nanos := if instant.isLeap then instant.nanos - nanosPerSecond else instant.nanos
    if inRange seconds then some ⟨seconds, nanos⟩ else none

/-- Whole milliseconds since 1970, rounded down. -/
def toMillis (instant : Instant) : Int :=
  instant.seconds * 1000 + (instant.nanos / 1000000 : Nat)

/-- The instant at a number of milliseconds, if it is in the covered years. -/
def ofMillis? (millis : Int) : Option Instant :=
  let seconds := millis / 1000
  if inRange seconds then some ⟨seconds, (millis % 1000).toNat * 1000000⟩ else none

/-- Nanoseconds since 1970. -/
def toNanos (instant : Instant) : Int := instant.seconds * nanosPerSecond + instant.nanos

/-- Whole milliseconds from one instant to a later one, and 0 when it is not later. -/
def millisSince (later earlier : Instant) : Nat :=
  ((later.toNanos - earlier.toNanos) / 1000000).toNat

/-- The instant some milliseconds later, or the same one at the end of the covered years. -/
def later (instant : Instant) (millis : Nat) : Instant :=
  (ofMillis? (instant.toMillis + millis)).getD instant

end Instant

end RouterPoll
