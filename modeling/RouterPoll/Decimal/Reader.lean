import RouterPoll.Decimal.Binary64
import RouterPoll.Text.Numeral

/-!
# Reading decimals

Text read as a double in two ways. `number?` is the grammar of a free-standing number: an optional sign, digits with an optional point on either side of them, an optional exponent, or one of the words for infinity and NaN in any case; the value is the nearest double. `scaled?` is the reading of numbers in documents: the leading digits that fit a 64-bit word become a double, and one division or multiplication by a power of ten brings it to size, so its last bit may differ from the nearest double.
-/

namespace RouterPoll

namespace Decimal

def infinity : Float := Float.ofBits 0x7FF0000000000000

/-- The nearest double to `digits * 10 ^ exponent`. A value with no digit near the range of doubles is settled by its magnitude alone. -/
def fromDigits (digits : Nat) (exponent : Int) : Float :=
  if digits == 0 then Float.ofBits 0
  else
    let magnitude : Int := (Text.natText digits).length + exponent
    if magnitude > 310 then infinity
    else if magnitude < -330 then Float.ofBits 0
    else match exponent with
      | .ofNat up => nearest (digits * Nat.pow 10 up) 1
      | .negSucc down => nearest digits (Nat.pow 10 (down + 1))

def negateIf (negative : Bool) (value : Float) : Float := if negative then -value else value

/-- The digits at the front of a text, and what follows them. -/
def spanDigits (chars : List Char) : List Char × List Char :=
  chars.span (·.isDigit)

/-- An exponent after its letter: an optional sign and at least one digit, to the end of the text. -/
def exponent? (chars : List Char) : Option Int :=
  match chars with
  | '-' :: rest => (Text.digits? rest).map fun value => -(value : Int)
  | '+' :: rest => (Text.digits? rest).map Int.ofNat
  | rest => (Text.digits? rest).map Int.ofNat

/-- A number without its sign. -/
def magnitude? (chars : List Char) : Option Float :=
  let (whole, rest) := spanDigits chars
  let (fraction, rest) := match rest with
    | '.' :: more => spanDigits more
    | _ => ([], rest)
  match Text.digits? (whole ++ fraction) with
  | none => none
  | some digits =>
    let shift : Int := -(fraction.length : Int)
    match rest with
    | [] => some (fromDigits digits shift)
    | letter :: more =>
      if letter == 'e' || letter == 'E' then
        (exponent? more).map fun exponent => fromDigits digits (exponent + shift)
      else none

def notANumber : Float := Float.ofBits 0x7FF8000000000000

/-- A free-standing number. -/
def number? (chars : List Char) : Option Float :=
  let (negative, rest) := match chars with
    | '-' :: rest => (true, rest)
    | '+' :: rest => (false, rest)
    | rest => (false, rest)
  let word := rest.map Char.toLower
  if word == "inf".toList || word == "infinity".toList then some (negateIf negative infinity)
  else if word == "nan".toList then some notANumber
  else (magnitude? rest).map (negateIf negative)

/-! ### Numbers in documents -/

/-- The longest front of the digits that stays below `2 ^ 64`, continued from a given value, and the digits left over. -/
def fillWord : Nat → List Char → Nat × List Char
  | word, [] => (word, [])
  | word, char :: rest =>
    let next := 10 * word + (char.toNat - '0'.toNat)
    if next < Text.limit64 then fillWord next rest else (word, char :: rest)

def powerOfTen (power : Nat) : Float := ofNat (Nat.pow 10 power)

/-- A double times a power of ten, in one rounding when the power itself is a double, and otherwise in steps of `10 ^ 308`. A result beyond the largest double is refused. -/
def scale (value : Float) (exponent : Int) : Option Float :=
  match exponent with
  | .ofNat up =>
    if up ≤ 308 then
      let scaled := value * powerOfTen up
      if isFinite scaled then some scaled else none
    else if value == 0 then some value else none
  | .negSucc down =>
    let power := down + 1
    if power ≤ 308 then some (value / powerOfTen power)
    else
      let once := value / powerOfTen 308
      if once == 0 then some once
      else if power ≤ 616 then some (once / powerOfTen (power - 308))
      else some (Float.ofBits 0)

/-- The value of `whole.fraction * 10 ^ exponent` by the leading digits. -/
def scaled? (whole fraction : List Char) (exponent : Int) : Option Float :=
  let (front, wholeLeft) := fillWord 0 whole
  let (word, fractionLeft) := fillWord front fraction
  let shift : Int := (wholeLeft.length : Int) - (fraction.length - fractionLeft.length : Nat)
  if Text.signedLimit32 ≤ exponent.natAbs then
    if word == 0 || exponent < 0 then some (Float.ofBits 0) else none
  else scale (ofNat word) (shift + exponent)

end Decimal

end RouterPoll
