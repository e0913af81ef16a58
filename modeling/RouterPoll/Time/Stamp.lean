import RouterPoll.Time.Instant
import RouterPoll.Text.Blank
import RouterPoll.Text.Numeral

/-!
# Time stamps

Instants as text: date and time of day in universal time with the fewest of 0, 3, 6 or 9 fraction digits that are exact. Reading is more generous: fields need no padding, blanks may stand between them, an offset from universal time is required and taken off, and fraction digits beyond nanoseconds are cut.
-/

namespace RouterPoll

namespace Instant

open Text (padded)

/-! ### Writing -/

/-- A year in four digits; outside of 0 to 9999 with a sign. -/
def yearText (year : Int) : String :=
  if 0 ≤ year && year ≤ 9999 then padded 4 year.toNat
  else if year < 0 then "-" ++ padded 4 year.natAbs
  else "+" ++ padded 4 year.natAbs

def fractionText (nanos : Nat) : String :=
  if nanos == 0 then ""
  else if nanos % 1000000 == 0 then "." ++ padded 3 (nanos / 1000000)
  else if nanos % 1000 == 0 then "." ++ padded 6 (nanos / 1000)
  else "." ++ padded 9 nanos

def text (instant : Instant) : String :=
  let date := Time.Date.ofDays (instant.seconds / secondsPerDay)
  let second := (instant.seconds % secondsPerDay).toNat
  let leap := if instant.isLeap then 1 else 0
  yearText date.year ++ "-" ++ padded 2 date.month ++ "-" ++ padded 2 date.day ++ "T"
    ++ padded 2 (second / 3600) ++ ":" ++ padded 2 (second / 60 % 60) ++ ":"
    ++ padded 2 (second % 60 + leap) ++ fractionText (instant.nanos - leap * nanosPerSecond) ++ "Z"

/-! ### Reading -/

/-- What is left of a text after a step of reading. -/
abbrev Step (α : Type) := List Char → Option (α × List Char)

def skipBlank (chars : List Char) : List Char := chars.dropWhile Text.isBlank

/-- At least one and at most `width` digits. -/
def digits (width : Nat) : Step Nat := fun chars =>
  let run := (chars.take width).takeWhile Char.isDigit
  (Text.digits? run).map fun value => (value, chars.drop run.length)

/-- Any number of digits, at least one. -/
def allDigits : Step Nat := fun chars =>
  let run := chars.takeWhile Char.isDigit
  (Text.digits? run).map fun value => (value, chars.drop run.length)

def field (width : Nat) : Step Nat := fun chars => digits width (skipBlank chars)

def letter (char : Char) : Step Unit := fun chars =>
  match skipBlank chars with
  | next :: rest => if next == char then some ((), rest) else none
  | [] => none

/-- A year: up to four digits, or a sign and any number of them. -/
def year : Step Int := fun chars =>
  match skipBlank chars with
  | '-' :: rest => (allDigits rest).map fun (value, rest) => (-(value : Int), rest)
  | '+' :: rest => (allDigits rest).map fun (value, rest) => ((value : Int), rest)
  | chars => (digits 4 chars).map fun (value, rest) => ((value : Int), rest)

def date : Step Time.Date := fun chars => do
  let (year, chars) ← year chars
  let (_, chars) ← letter '-' chars
  let (month, chars) ← field 2 chars
  let (_, chars) ← letter '-' chars
  let (day, chars) ← field 2 chars
  return (⟨year, month, day⟩, chars)

def separator : Step Unit
  | 'T' :: rest => some ((), rest)
  | 't' :: rest => some ((), rest)
  | ' ' :: rest => some ((), rest)
  | _ => none

/-- The fraction after a point, in nanoseconds. -/
def fraction : Step Nat
  | '.' :: rest => do
    let run := rest.takeWhile Char.isDigit
    let value ← Text.digits? (run.take 9)
    return (value * Nat.pow 10 (9 - min run.length 9), rest.drop run.length)
  | chars => some (0, chars)

/-- A time of day as seconds, with its nanoseconds; second 60 is the leap second. -/
def timeOfDay : Step (Nat × Nat) := fun chars => do
  let (hour, chars) ← field 2 chars
  let (_, chars) ← letter ':' chars
  let (minute, chars) ← field 2 chars
  let (_, chars) ← letter ':' chars
  let (second, chars) ← field 2 chars
  let (nanos, chars) ← fraction chars
  if hour < 24 && minute < 60 && second ≤ 60 then
    let leap := if second == 60 then 1 else 0
    return ((hour * 3600 + minute * 60 + (second - leap), nanos + leap * nanosPerSecond), chars)
  else none

def twoDigits : Step Nat
  | a :: b :: rest =>
    if a.isDigit && b.isDigit then (Text.digits? [a, b]).map fun value => (value, rest) else none
  | _ => none

def isOffsetGap (char : Char) : Bool := char == ':' || Text.isBlank char

def signedOffset (negative : Bool) : Step Int := fun chars => do
  let (hours, chars) ← twoDigits chars
  let (minutes, chars) ← twoDigits (chars.dropWhile isOffsetGap)
  let size : Int := hours * 3600 + minutes * 60
  if minutes < 60 && hours < 24 then return (if negative then -size else size, chars) else none

/-- An offset from universal time in seconds: a letter or name for none, or a signed time. -/
def offset : Step Int := fun chars =>
  let chars := skipBlank chars
  if (chars.take 3).map Char.toUpper == ['U', 'T', 'C'] then some (0, chars.drop 3)
  else match chars with
    | 'Z' :: rest => some (0, rest)
    | 'z' :: rest => some (0, rest)
    | '+' :: rest => signedOffset false rest
    | '-' :: rest => signedOffset true rest
    | '−' :: rest => signedOffset true rest
    | _ => none

def parse? (text : String) : Option Instant := do
  let (date, chars) ← date text.toList
  let (_, chars) ← separator chars
  let ((second, nanos), chars) ← timeOfDay chars
  let (offset, chars) ← offset chars
  let seconds := date.toDays * secondsPerDay + second - offset
  if (skipBlank chars).isEmpty && date.valid && Time.firstYear ≤ date.year
      && date.year ≤ Time.lastYear && inRange seconds then
    return ⟨seconds, nanos⟩
  else none

end Instant

end RouterPoll
