import RouterPoll.Decimal.Binary64

/-!
# Shortest digits

The fewest decimal digits that read back as a given double, and of those the digits nearest to it. The doubles that round to the given one fill an interval around it; for one digit, then two, and so on, the two neighbours of the value on the decimal grid are tried until one lies in that interval. Which way an exact tie goes is left to the format that prints the digits.
-/

namespace RouterPoll

namespace Decimal

/-- The direction in which a value halfway between two candidates goes. -/
inductive Tie where
  | toEven
  | up
  deriving Repr, DecidableEq

/-- `digits * 10 ^ exponent`. -/
structure Digits where
  digits : Nat
  exponent : Int
  deriving Repr, DecidableEq

/-- A fraction times `10 ^ (-power)`. -/
def shiftDecimal (numerator denominator : Nat) : Int → Nat × Nat
  | .ofNat up => (numerator, denominator * Nat.pow 10 up)
  | .negSucc down => (numerator * Nat.pow 10 (down + 1), denominator)

/-- Steps up while the next power of ten is still not above the value. -/
def climb (numerator denominator : Nat) : Nat → Int → Int
  | 0, power => power
  | fuel + 1, power =>
    let (top, bottom) := shiftDecimal numerator denominator (power + 1)
    if bottom ≤ top then climb numerator denominator fuel (power + 1) else power

/-- The greatest power of ten that is not above a positive fraction. The estimate from the binary lengths is low by at most two. -/
def decimalMagnitude (numerator denominator : Nat) : Int :=
  let binary : Int := (Nat.log2 numerator : Int) - Nat.log2 denominator
  climb numerator denominator 4 ((binary - 1) * 30103 / 100000 - 1)

/-- The interval of a double in quarters of `2 ^ exponent`: its value, its lower end and its upper end. The lower neighbour of a power of two is half as far away. -/
structure Interval where
  value : Nat
  low : Nat
  high : Nat
  closed : Bool
  exponent : Int

def interval (mantissa : Nat) (exponent : Int) : Interval where
  value := 4 * mantissa
  low := 4 * mantissa - (if mantissa == leadingBit && exponent != -1074 then 1 else 2)
  high := 4 * mantissa + 2
  closed := mantissa % 2 == 0
  exponent := exponent - 2

/-- The better of the two neighbours of a value on the grid of `10 ^ power`, if either reads back as it. -/
def onGrid (tie : Tie) (window : Interval) (power : Int) : Option Nat :=
  let unit : Nat × Nat := scaleDown 1 1 window.exponent
  let (top, bottom) := shiftDecimal unit.2 unit.1 power
  let below := window.value * top / bottom
  let inside (digits : Nat) : Bool :=
    let point := digits * bottom
    if window.closed then window.low * top ≤ point && point ≤ window.high * top
    else window.low * top < point && point < window.high * top
  let fromBelow := window.value * top - below * bottom
  let toAbove := (below + 1) * bottom - window.value * top
  match decide (0 < below) && inside below, inside (below + 1) with
  | true, false => some below
  | false, true => some (below + 1)
  | false, false => none
  | true, true =>
    if fromBelow < toAbove then some below
    else if toAbove < fromBelow then some (below + 1)
    else match tie with
      | .up => some (below + 1)
      | .toEven => some (if below % 2 == 0 then below else below + 1)

/-- The first grid, from coarse to fine, with a neighbour that reads back. -/
def firstGrid (tie : Tie) (window : Interval) : Nat → Int → Digits
  | 0, power => ⟨window.value, power⟩
  | fuel + 1, power =>
    match onGrid tie window power with
    | some digits => ⟨digits, power⟩
    | none => firstGrid tie window fuel (power - 1)

/-- Moves the zeros at the end of the digits into the exponent. -/
def dropZeros : Nat → Digits → Digits
  | 0, number => number
  | fuel + 1, number =>
    if number.digits != 0 && number.digits % 10 == 0 then
      dropZeros fuel ⟨number.digits / 10, number.exponent + 1⟩
    else number

/-- The shortest digits of `mantissa * 2 ^ exponent`; seventeen always suffice. -/
def shortest (tie : Tie) (mantissa : Nat) (exponent : Int) : Digits :=
  if mantissa == 0 then ⟨0, 0⟩
  else
    let window := interval mantissa exponent
    let unit : Nat × Nat := scaleDown 1 1 exponent
    let power := decimalMagnitude (mantissa * unit.2) unit.1
    dropZeros 20 (firstGrid tie window 18 power)

end Decimal

end RouterPoll
