/-!
# The calendar

Days counted from 1 January 1970 and the dates of the Gregorian calendar, extended to all years. Years are taken to begin in March, so that a leap day is the last day of its year, and run in eras of 400 years, which have one length.
-/

namespace RouterPoll

namespace Time

structure Date where
  year : Int
  month : Nat
  day : Nat
  deriving DecidableEq, Repr

def isLeapYear (year : Int) : Bool :=
  year % 4 == 0 && (year % 100 != 0 || year % 400 == 0)

def monthLength (year : Int) (month : Nat) : Nat :=
  if month == 2 then if isLeapYear year then 29 else 28
  else if month == 4 || month == 6 || month == 9 || month == 11 then 30
  else 31

def Date.valid (date : Date) : Bool :=
  1 ≤ date.month && date.month ≤ 12 && 1 ≤ date.day && date.day ≤ monthLength date.year date.month

/-- Days in an era of 400 years. -/
def eraLength : Nat := 146097

/-- Days from the beginning of March of year 0 to the beginning of 1970. -/
def epochShift : Int := 719468

def Date.toDays (date : Date) : Int :=
  let year := if date.month ≤ 2 then date.year - 1 else date.year
  let era := year / 400
  let yearOfEra := (year % 400).toNat
  let month := (date.month + 9) % 12
  let dayOfYear := (153 * month + 2) / 5 + date.day - 1
  let dayOfEra := yearOfEra * 365 + yearOfEra / 4 - yearOfEra / 100 + dayOfYear
  era * eraLength + dayOfEra - epochShift

def Date.ofDays (days : Int) : Date :=
  let shifted := days + epochShift
  let era := shifted / (eraLength : Int)
  let dayOfEra := (shifted % (eraLength : Int)).toNat
  let yearOfEra := (dayOfEra - dayOfEra / 1460 + dayOfEra / 36524 - dayOfEra / 146096) / 365
  let dayOfYear := dayOfEra - (365 * yearOfEra + yearOfEra / 4 - yearOfEra / 100)
  let shiftedMonth := (5 * dayOfYear + 2) / 153
  let month := if shiftedMonth < 10 then shiftedMonth + 3 else shiftedMonth - 9
  let year := era * 400 + yearOfEra + (if month ≤ 2 then 1 else 0)
  ⟨year, month, dayOfYear - (153 * shiftedMonth + 2) / 5 + 1⟩

def firstYear : Int := -262143
def lastYear : Int := 262142

end Time

end RouterPoll
