import RouterPoll.Text.Blank
import RouterPoll.Text.Numeral

/-!
# Uptimes

The time a router or a session has been up, as RouterOS prints it: numbers with a unit each, from weeks to milliseconds, such as `1w2d3h4m5s`, and at the end perhaps a clock `hh:mm:ss`. The seconds are added up in a 64-bit word, and there is no uptime where a number, a product or a sum does not fit it. What has been read is cut off by its size in bytes, which can be done between two characters only.
-/

namespace RouterPoll

/-- Whether a text can be cut after a number of bytes: a character is taken as a whole or not at all. -/
def Text.isCut : Nat → List Char → Bool
  | 0, _ => true
  | _ + 1, [] => false
  | count, char :: rest => char.utf8Size ≤ count && Text.isCut (count - char.utf8Size) rest

namespace RouterOs

/-- The seconds in a unit that is one letter. -/
def unit? : Char → Option Nat
  | 'w' => some (7 * 24 * 3600)
  | 'd' => some (24 * 3600)
  | 'h' => some 3600
  | 'm' => some 60
  | 's' => some 1
  | _ => none

def number? (digits : List Char) : Option Nat := Text.unsigned? Text.limit64 digits

/-- A number that fits a 64-bit word. -/
def word? (value : Nat) : Option Nat := if value < Text.limit64 then some value else none

/-- The seconds with those of some units added. -/
def addUnits? (total count unit : Nat) : Option Nat := do
  let seconds ← word? (count * unit)
  word? (total + seconds)

/-- The seconds of a clock. -/
def clock? (chars : List Char) : Option Nat :=
  match (chars.splitOn ':').mapM number? with
  | some [hours, minutes, seconds] => do
    let hours ← word? (hours * 3600)
    let minutes ← word? (minutes * 60)
    let minutes ← word? (hours + minutes)
    word? (minutes + seconds)
  | _ => none

/-- Adds up what follows; `digits` are those read since the last unit. Milliseconds count for nothing. Reading breaks off without any answer at a cut inside a character. -/
def addUp (total : Nat) (digits : List Char) : List Char → Option (Option Nat)
  | [] => some (if digits.isEmpty then some total else none)
  | char :: rest =>
    if (Text.digit? char).isSome then
      if Text.isCut 1 (char :: rest) then addUp total (digits ++ [char]) rest else none
    else if char == ':' then
      some ((clock? (digits ++ char :: rest)).bind fun seconds => word? (total + seconds))
    else
      match number? digits, char, rest with
      | none, _, _ => some none
      | some count, 'm', 's' :: rest =>
        match addUnits? total count 0 with
        | none => some none
        | some total => if Text.isCut 2 ('m' :: 's' :: rest) then addUp total [] rest else none
      | some count, char, rest =>
        match (unit? char).bind (addUnits? total count) with
        | none => some none
        | some total => if Text.isCut 1 (char :: rest) then addUp total [] rest else none

/-- What is read of a text, without the blanks around it. -/
def readUptime (text : String) : Option (Option Nat) :=
  let chars := Text.trimBlank text.toList
  if chars.isEmpty then some none else addUp 0 [] chars

/-- The uptime in seconds. -/
def uptime? (text : String) : Option Nat := (readUptime text).join

end RouterOs

end RouterPoll
