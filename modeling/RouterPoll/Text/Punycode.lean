import RouterPoll.Text.Numeral

/-!
# Punycode

Any text written with letters, digits and hyphens. The characters that are ASCII come first, behind them a hyphen if there are any, and then numbers that tell for each other character, in the order of their codes, how far to go on from the one before: once around all places for every code that is passed over. Numbers are written with digits from `a` to `9`, the lowest first, and end with a digit below a threshold that adapts to the sizes seen so far.
-/

namespace RouterPoll

namespace Punycode

def isBasic (char : Char) : Bool := char.toNat < 128

def digitChar (value : Nat) : Char := Char.ofNat (if value < 26 then 97 + value else 22 + value)

def digit? (char : Char) : Option Nat :=
  if 'a' ≤ char && char ≤ 'z' then some (char.toNat - 97)
  else if 'A' ≤ char && char ≤ 'Z' then some (char.toNat - 65)
  else if char.isDigit then some (char.toNat - 22)
  else none

/-- The least value of a digit after which its number goes on. -/
def threshold (place bias : Nat) : Nat := min 26 (max 1 (place - bias))

theorem threshold_bounds (place bias : Nat) :
    1 ≤ threshold place bias ∧ threshold place bias ≤ 26 := by
  unfold threshold
  omega

/-- The bias of a size, which is the larger the more digits it takes. -/
def biasOf (size bias : Nat) : Nat :=
  if 455 < size then biasOf (size / 35) (bias + 36) else bias + 36 * size / (size + 38)
termination_by size
decreasing_by omega

/-- The bias after a number, for a text that has `count` characters by then. -/
def adapt (number count : Nat) (isFirst : Bool) : Nat :=
  let size := if isFirst then number / 700 else number / 2
  biasOf (size + size / count) 0

/-! ### Writing -/

/-- The digits of a number. -/
def encodeNumber (bias place number : Nat) : List Char :=
  let limit := threshold place bias
  if number < limit then [digitChar number]
  else
    digitChar (limit + (number - limit) % (36 - limit))
      :: encodeNumber bias (place + 36) ((number - limit) / (36 - limit))
termination_by number
decreasing_by
  have hbounds := threshold_bounds place bias
  exact Nat.lt_of_le_of_lt (Nat.div_le_self _ _) (by omega)

/-- What is written so far, how far the next number has to go, and how many characters are placed. -/
structure Writing where
  digits : List Char
  distance : Nat
  bias : Nat
  placed : Nat

/-- Passes over one character of the text on the way of a code around it. -/
def passOver (code basics : Nat) (state : Writing) (char : Char) : Writing :=
  if char.toNat < code then { state with distance := state.distance + 1 }
  else if char.toNat == code then {
    digits := state.digits ++ encodeNumber state.bias 36 state.distance
    distance := 0
    bias := adapt state.distance (state.placed + 1) (state.placed == basics)
    placed := state.placed + 1 }
  else state

/-- The numbers for codes in rising order, of which those below `next` are done. -/
def encodeCodes (text : List Char) (basics : Nat) : List Nat → Nat → Writing → Writing
  | [], _, state => state
  | code :: codes, next, state =>
    let start := { state with distance := state.distance + (code - next) * (state.placed + 1) }
    let state := text.foldl (passOver code basics) start
    encodeCodes text basics codes (code + 1) { state with distance := state.distance + 1 }

def encode (text : List Char) : List Char :=
  let basics := text.filter isBasic
  let codes := (((text.filter (!isBasic ·)).map Char.toNat).mergeSort).eraseDups
  let state := encodeCodes text basics.length codes 128 ⟨[], 0, 72, basics.length⟩
  (if basics.isEmpty then [] else basics ++ ['-']) ++ state.digits

/-! ### Reading -/

/-- What is read so far. A number is in its middle unless its next digit is the first one. -/
structure Reading where
  text : List Char
  code : Nat
  place : Nat
  start : Nat
  bias : Nat
  weight : Nat
  digitPlace : Nat

/-- The text with the character that a whole number tells. -/
def Reading.put? (state : Reading) : Option Reading :=
  let count := state.text.length + 1
  let code := state.code + state.place / count
  let place := state.place % count
  if hvalid : code.isValidChar then
    some {
      text := state.text.insertIdx place (Char.ofNatAux code hvalid)
      code
      place := place + 1
      start := place + 1
      bias := adapt (state.place - state.start) count (state.start == 0)
      weight := 1
      digitPlace := 36 }
  else none

def Reading.step? (state : Reading) (char : Char) : Option Reading := do
  let digit ← digit? char
  let state := { state with place := state.place + digit * state.weight }
  let limit := threshold state.digitPlace state.bias
  if digit < limit then state.put?
  else
    return { state with
      weight := state.weight * (36 - limit)
      digitPlace := state.digitPlace + 36 }

/-- The text before the last hyphen and the digits behind it; a hyphen at the very front is no mark. -/
def split (chars : List Char) : List Char × List Char :=
  let digits := (chars.reverse.takeWhile (· != '-')).reverse
  let basics := chars.take (chars.length - digits.length - 1)
  if basics.isEmpty then ([], chars) else (basics, digits)

def decode? (chars : List Char) : Option (List Char) := do
  let (basics, digits) := split chars
  if !basics.all isBasic then none
  let state ← digits.foldlM Reading.step? ⟨basics, 128, 0, 0, 72, 1, 36⟩
  if state.digitPlace == 36 then some state.text else none

end Punycode

end RouterPoll
