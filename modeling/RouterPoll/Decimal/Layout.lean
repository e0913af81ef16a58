import RouterPoll.Decimal.Shortest
import RouterPoll.Text.Numeral

/-!
# Layouts of a number

How the digits of a double are laid out. The plain layout never uses an exponent and shows a whole number without a point; it also has words for the values that are no number. The document layout always shows that the value is a double, by a point or an exponent, and has no text for a value that is not finite.
-/

namespace RouterPoll

namespace Decimal

def zeros (count : Int) : String := String.ofList (List.replicate count.toNat '0')

/-- Digits with a point after the first `whole` of them. -/
def withPoint (digits : String) (whole : Int) : String :=
  if whole ≤ 0 then "0." ++ zeros (-whole) ++ digits
  else String.ofList (digits.toList.take whole.toNat) ++ "."
    ++ String.ofList (digits.toList.drop whole.toNat)

def sign (negative : Bool) : String := if negative then "-" else ""

/-- The plain layout: no exponent, and no point in a whole number. -/
def plain (value : Float) : String :=
  match parts value with
  | .nan => "NaN"
  | .infinite negative => sign negative ++ "inf"
  | .finite negative mantissa exponent =>
    let number := shortest .up mantissa exponent
    let digits := Text.natText number.digits
    sign negative ++
      if 0 ≤ number.exponent then
        if number.digits == 0 then "0" else digits ++ zeros number.exponent
      else withPoint digits (digits.length + number.exponent)

/-- The document layout: positional for values from a hundred-thousandth up to 16 whole digits, with an exponent outside, which has a sign either way. -/
def document? (value : Float) : Option String :=
  match parts value with
  | .nan => none
  | .infinite _ => none
  | .finite negative mantissa exponent =>
    let number := shortest .toEven mantissa exponent
    let digits := Text.natText number.digits
    let whole : Int := digits.length + number.exponent
    some <| sign negative ++
      if number.digits == 0 then "0.0"
      else if 0 ≤ number.exponent && whole ≤ 16 then digits ++ zeros number.exponent ++ ".0"
      else if -5 < whole && whole ≤ 16 then withPoint digits whole
      else
        let lead := if digits.length == 1 then digits else withPoint digits 1
        lead ++ "e" ++ (if whole < 1 then "" else "+") ++ Text.intText (whole - 1)

end Decimal

end RouterPoll
