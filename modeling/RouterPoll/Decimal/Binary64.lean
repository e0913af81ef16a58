import RouterPoll.Text.Numeral

/-!
# Double-precision numbers, exactly

A finite double is `mantissa * 2 ^ exponent` with a sign, and every quotient of naturals has one nearest double. `parts` and `nearest` cross that border in the two directions; the printing and reading of decimals is exact arithmetic on this side of it.
-/

namespace RouterPoll

namespace Decimal

/-- The weight of the digit in front of the 52 stored digits of a mantissa. -/
def leadingBit : Nat := 4503599627370496

/-- A double as its sign and, when it is finite, `mantissa * 2 ^ exponent`. -/
inductive Parts where
  | nan
  | infinite (negative : Bool)
  | finite (negative : Bool) (mantissa : Nat) (exponent : Int)
  deriving Repr, DecidableEq

def parts (value : Float) : Parts :=
  let bits := value.toBits.toNat
  let negative := bits / Text.signedLimit64 == 1
  let biased : Nat := bits / leadingBit % 2048
  let fraction := bits % leadingBit
  if biased == 2047 then if fraction == 0 then .infinite negative else .nan
  else if biased == 0 then .finite negative fraction (-1074)
  else .finite negative (fraction + leadingBit) (Int.subNatNat biased 1075)

def isFinite (value : Float) : Bool :=
  match parts value with
  | .finite .. => true
  | _ => false

/-- The quotient rounded to the nearest natural, a half to the even neighbour. -/
def divideToEven (numerator denominator : Nat) : Nat :=
  let quotient := numerator / denominator
  let twice := 2 * (numerator % denominator)
  if twice > denominator || (twice == denominator && quotient % 2 == 1) then quotient + 1
  else quotient

/-- `numerator / denominator * 2 ^ (-exponent)` as a fraction. -/
def scaleDown (numerator denominator : Nat) : Int → Nat × Nat
  | .ofNat up => (numerator, denominator * Nat.pow 2 up)
  | .negSucc down => (numerator * Nat.pow 2 (down + 1), denominator)

/-- The exponent at which the mantissa of `numerator / denominator` has 53 digits, or the least one a double has. -/
def mantissaExponent (numerator denominator : Nat) : Int :=
  let guess : Int := (Nat.log2 numerator : Int) - Nat.log2 denominator - 52
  let (top, bottom) := scaleDown numerator denominator guess
  max (if top < bottom * leadingBit then guess - 1 else guess) (-1074)

/-- The bits of the non-negative double nearest to `mantissa * 2 ^ exponent`, for a mantissa of at most 53 digits. A mantissa rounded up to the next power of two carries into the exponent by itself. -/
def assemble (mantissa : Nat) (exponent : Int) : Nat :=
  let biased := (exponent + 1074).toNat
  let bits := if mantissa < leadingBit then mantissa else biased * leadingBit + mantissa
  min bits (2047 * leadingBit)

/-- The double nearest to a quotient, a half to the even neighbour and too large a value to infinity. -/
def nearest (numerator denominator : Nat) : Float :=
  if numerator == 0 then Float.ofBits 0
  else
    let exponent := mantissaExponent numerator denominator
    let (top, bottom) := scaleDown numerator denominator exponent
    Float.ofBits (assemble (divideToEven top bottom) exponent).toUInt64

def ofNat (value : Nat) : Float := nearest value 1

def ofInt : Int → Float
  | .ofNat value => ofNat value
  | .negSucc value => -ofNat (value + 1)

/-- A double cut to an integer, at most the bounds of a signed 64-bit word; NaN is 0. -/
def toSigned64 (value : Float) : Int :=
  match parts value with
  | .nan => 0
  | .infinite negative => if negative then -Text.signedLimit64 else Text.maxSigned64
  | .finite negative mantissa exponent =>
    let size : Nat := match exponent with
      | .ofNat up => mantissa * Nat.pow 2 up
      | .negSucc down => mantissa / Nat.pow 2 (down + 1)
    if negative then max (-(size : Int)) (-Text.signedLimit64)
    else min (size : Int) Text.maxSigned64

end Decimal

end RouterPoll
