/-!
# Numerals

Digits read as numbers and numbers written as digits. `digits?` takes one or more decimal digits and nothing else; `unsigned?` also allows one leading plus sign and refuses a number that is not below its limit. The limits are those of the machine words the settings and counters of a router are kept in.
-/

namespace RouterPoll

namespace Text

def digit? (char : Char) : Option Nat :=
  if '0' ≤ char && char ≤ '9' then some (char.toNat - '0'.toNat) else none

def hexDigit? (char : Char) : Option Nat :=
  if '0' ≤ char && char ≤ '9' then some (char.toNat - '0'.toNat)
  else if 'a' ≤ char && char ≤ 'f' then some (char.toNat - 'a'.toNat + 10)
  else if 'A' ≤ char && char ≤ 'F' then some (char.toNat - 'A'.toNat + 10)
  else none

/-- The number a run of digits continues, read from the left in the given base. -/
def readDigits (base : Nat) (digit : Char → Option Nat) : Nat → List Char → Option Nat
  | total, [] => some total
  | total, char :: rest =>
    match digit char with
    | some value => readDigits base digit (base * total + value) rest
    | none => none

/-- One or more decimal digits. -/
def digits? (chars : List Char) : Option Nat :=
  if chars.isEmpty then none else readDigits 10 digit? 0 chars

def hexDigits? (chars : List Char) : Option Nat :=
  if chars.isEmpty then none else readDigits 16 hexDigit? 0 chars

/-- The part of a numeral after one optional plus sign. -/
def dropPlus : List Char → List Char
  | '+' :: rest => rest
  | chars => chars

/-- Decimal digits after an optional plus sign, for a number below `limit`. -/
def unsigned? (limit : Nat) (chars : List Char) : Option Nat :=
  (digits? (dropPlus chars)).filter (· < limit)

/-! ### Widths -/

def limit16 : Nat := 65536
def limit32 : Nat := 4294967296
def limit64 : Nat := 18446744073709551616

/-- One more than the largest value of a signed word, and the size of its least value. -/
def signedLimit32 : Nat := 2147483648
def signedLimit64 : Nat := 9223372036854775808

/-- The largest value of a signed 64-bit word. -/
def maxSigned64 : Nat := signedLimit64 - 1

/-! ### Writing -/

def natText (value : Nat) : String := Nat.repr value

def intText : Int → String
  | .ofNat value => natText value
  | .negSucc value => "-" ++ natText (value + 1)

def hexDigit (value : Nat) : Char := Nat.digitChar (value % 16)

/-- The last `width` hexadecimal digits of a number, lower case. -/
def hexFixed : Nat → Nat → List Char
  | 0, _ => []
  | width + 1, value => hexFixed width (value / 16) ++ [hexDigit value]

/-- A number in lower-case hexadecimal without leading zeros. -/
def hexText (value : Nat) : String := String.ofList (Nat.toDigits 16 value)

/-- A number in decimal, filled with zeros on the left up to a width. -/
def padded (width value : Nat) : String :=
  let digits := natText value
  String.ofList (List.replicate (width - digits.length) '0') ++ digits

end Text

end RouterPoll
