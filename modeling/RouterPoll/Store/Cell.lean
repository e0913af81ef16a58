import RouterPoll.Decimal.Reader
import RouterPoll.Store.Error

/-!
# Cells

What a column of a database holds. A column is made for one kind of value and takes others where they can not be turned into it: in a column for whole numbers a text that is a numeral becomes a number, and any other text stays what it is. So a reader has to look at the kind of a cell. Sums and the order of cells are defined across kinds: a text counts as the numeral at its front, and nothing comes before numbers, which come before texts.
-/

namespace RouterPoll

/-- A number of a cell: of 64 bits with a sign, or a double. -/
inductive Quantity where
  | whole (value : Int)
  | real (value : Float)
  deriving DecidableEq, Repr

inductive Cell where
  | null
  | number (value : Quantity)
  | text (value : String)
  deriving DecidableEq, Repr

namespace Quantity

def fits (value : Int) : Bool := -Text.signedLimit64 ≤ value && value ≤ Text.maxSigned64

/-- The quantity of an integer, which is a double where it leaves 64 bits. -/
def ofInt (value : Int) : Quantity :=
  if fits value then whole value else real (Decimal.ofInt value)

def toFloat : Quantity → Float
  | whole value => Decimal.ofInt value
  | real value => value

/-- A double that is a whole number of 64 bits, the two outermost left aside, as that number. -/
def settled : Quantity → Quantity
  | whole value => whole value
  | real value =>
    let near := Decimal.toSigned64 value
    if Decimal.ofInt near == value && -Text.signedLimit64 < near && near < Text.maxSigned64 then
      whole near
    else real value

/-- The outcome of an operation, which is carried out in doubles where whole numbers do not do; what is no number is nothing. -/
def combine (onWhole : Int → Int → Int) (onReal : Float → Float → Float)
    (left right : Quantity) : Cell :=
  let inDoubles :=
    let value := onReal left.toFloat right.toFloat
    if value.isNaN then Cell.null else .number (real value)
  match left, right with
  | whole first, whole second =>
    if fits (onWhole first second) then .number (whole (onWhole first second)) else inDoubles
  | _, _ => inDoubles

/-- A whole number against a double, exactly. -/
def compareWhole (value : Int) (other : Float) : Ordering :=
  match Decimal.parts other with
  | .nan => .gt
  | .infinite negative => if negative then .gt else .lt
  | .finite negative mantissa exponent =>
    let (top, bottom) := Decimal.scaleDown mantissa 1 (-exponent)
    compare (value * bottom) (if negative then -(top : Int) else top)

def order : Quantity → Quantity → Ordering
  | whole first, whole second => compare first second
  | whole first, real second => compareWhole first second
  | real first, whole second => (compareWhole second first).swap
  | real first, real second => if first < second then .lt else if first == second then .eq else .gt

end Quantity

/-! ### Numerals in texts -/

/-- The numeral at the front of a text: its digits, the places behind its point if it has one, its exponent, and whether one was begun and left without digits. -/
structure FrontNumeral where
  negative : Bool
  digits : List Char
  places : Option Nat
  exponent : Option Int
  isBroken : Bool
  rest : List Char

namespace FrontNumeral

def isSpace (char : Char) : Bool := char == ' ' || (0x09 ≤ char.toNat && char.toNat ≤ 0x0D)

def signAt : List Char → Bool × List Char
  | '-' :: rest => (true, rest)
  | '+' :: rest => (false, rest)
  | rest => (false, rest)

def ofText (text : String) : FrontNumeral :=
  let (negative, rest) := signAt (text.toList.dropWhile isSpace)
  let (front, rest) := Decimal.spanDigits rest
  let (back, rest) := match rest with
    | '.' :: more => ((Decimal.spanDigits more).map some id)
    | _ => (none, rest)
  let digits := front ++ back.getD []
  let places := back.map List.length
  let (exponent, isBroken, rest) := match rest with
    | letter :: more =>
      if letter == 'e' || letter == 'E' then
        let (isDown, more) := signAt more
        let (power, more) := Decimal.spanDigits more
        match Text.digits? power with
        | some power => (some (if isDown then -(power : Int) else power), false, more)
        | none => (none, true, more)
      else (none, false, rest)
    | [] => (none, false, [])
  { negative, digits, places, exponent, isBroken, rest := rest.dropWhile isSpace }

/-- The number it stands for; there are no digits in a zero. -/
def quantity (numeral : FrontNumeral) : Quantity :=
  let size := (Text.digits? numeral.digits).getD 0
  match numeral.places, numeral.exponent with
  | none, none => .ofInt (if numeral.negative then -(size : Int) else size)
  | places, exponent =>
    if numeral.digits.isEmpty then .whole 0
    else
      .real (Decimal.negateIf numeral.negative
        (Decimal.fromDigits size (exponent.getD 0 - (places.getD 0 : Nat))))

/-- Whether nothing else is in the text. -/
def isAll (numeral : FrontNumeral) : Bool :=
  !numeral.digits.isEmpty && !numeral.isBroken && numeral.rest.isEmpty

end FrontNumeral

namespace Cell

def whole (value : Int) : Cell := .number (.whole value)

def ofWhole? : Option Int → Cell
  | some value => whole value
  | none => null

/-- The first of two cells that holds something. -/
def or : Cell → Cell → Cell
  | null, other => other
  | cell, _ => cell

/-! ### Columns -/

/-- The cell as a column for whole numbers keeps it. -/
def inWholeColumn : Cell → Cell
  | null => null
  | number value => number value.settled
  | text value =>
    let numeral := FrontNumeral.ofText value
    if numeral.isAll then number numeral.quantity.settled else text value

/-- The text that a column for texts keeps, to which no double is written. -/
def inTextColumn? : Cell → Option String
  | text value => some value
  | number (.whole value) => some (Text.intText value)
  | _ => none

/-! ### Sums and order -/

/-- What a cell counts as in a sum. -/
def quantity? : Cell → Option Quantity
  | null => none
  | number value => some value
  | text value => some (FrontNumeral.ofText value).quantity

def combine (onWhole : Int → Int → Int) (onReal : Float → Float → Float) (left right : Cell) :
    Cell :=
  match left.quantity?, right.quantity? with
  | some left, some right => Quantity.combine onWhole onReal left right
  | _, _ => null

def plus : Cell → Cell → Cell := combine (· + ·) (· + ·)

def times : Cell → Cell → Cell := combine (· * ·) (· * ·)

def order : Cell → Cell → Ordering
  | null, null => .eq
  | null, _ => .lt
  | _, null => .gt
  | number left, number right => left.order right
  | number _, text _ => .lt
  | text _, number _ => .gt
  | text left, text right => compare left right

/-! ### Reading -/

def kind : Cell → String
  | null => "NULL"
  | number (.whole _) => "INTEGER"
  | number (.real _) => "REAL"
  | text _ => "TEXT"

/-- The refusal of a cell that is not of the kind its reader expects. -/
def mismatch (column type kind : String) (cell : Cell) : StorageError :=
  .queryFailed ("error occurred while decoding column " ++ column
    ++ ": mismatched types; Rust type `" ++ type ++ "` (as SQL type `" ++ kind
    ++ "`) is not compatible with SQL type `" ++ cell.kind ++ "`")

def readWhole (column : String) : Cell → Except StorageError Int
  | number (.whole value) => .ok value
  | cell => .error (cell.mismatch column "i64" "INTEGER")

def readWhole? (column : String) : Cell → Except StorageError (Option Int)
  | null => .ok none
  | number (.whole value) => .ok (some value)
  | cell => .error (cell.mismatch column "core::option::Option<i64>" "INTEGER")

/-- Whatever is not zero reads as a yes. -/
def readFlag (column : String) : Cell → Except StorageError Bool
  | number (.whole value) => .ok (value != 0)
  | cell => .error (cell.mismatch column "bool" "BOOLEAN")

end Cell

end RouterPoll
