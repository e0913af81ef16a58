import RouterPoll.Decimal.Layout

/-!
# Documents

A JSON value, and the compact text it is stored as. Fields keep the order they are given in. `write value rest` puts the text of a value in front of a rest, which is the form in which its reading is stated.
-/

namespace RouterPoll

/-- A number of a document: a whole number of at most 64 bits, or a double. -/
inductive Json.Number where
  | whole (value : Int)
  | double (value : Float)
  deriving DecidableEq, Inhabited

/-- The value of a document. -/
inductive Json where
  | null
  | bool (value : Bool)
  | number (value : Json.Number)
  | string (value : String)
  | array (items : List Json)
  | object (fields : List (String × Json))
  deriving Inhabited

namespace Json

def whole (value : Int) : Json := .number (.whole value)

def nat (value : Nat) : Json := whole value

def double (value : Float) : Json := .number (.double value)

/-- A value, or `null` where there is none. -/
def orNull (encode : α → Json) : Option α → Json
  | some value => encode value
  | none => .null

/-- The field of an object under a key. -/
def field? (key : String) : Json → Option Json
  | .object fields => (fields.find? (·.1 == key)).map (·.2)
  | _ => none

def text? : Json → Option String
  | .string value => some value
  | _ => none

def items? : Json → Option (List Json)
  | .array items => some items
  | _ => none

mutual

/-- The value with the fields of all its objects in the order of their keys. -/
def sorted : Json → Json
  | .array items => .array (sortedItems items)
  | .object fields =>
    .object ((sortedFields fields).mergeSort fun left right => decide (left.1 ≤ right.1))
  | value => value

def sortedItems : List Json → List Json
  | [] => []
  | item :: rest => sorted item :: sortedItems rest

def sortedFields : List (String × Json) → List (String × Json)
  | [] => []
  | (key, value) :: rest => (key, sorted value) :: sortedFields rest

end

/-! ### The compact text -/

/-- A character inside quotation marks. -/
def escape (char : Char) : List Char :=
  match char with
  | '"' => ['\\', '"']
  | '\\' => ['\\', '\\']
  | '\n' => ['\\', 'n']
  | '\r' => ['\\', 'r']
  | '\t' => ['\\', 't']
  | char =>
    if char.toNat == 0x08 then ['\\', 'b']
    else if char.toNat == 0x0C then ['\\', 'f']
    else if char.toNat < 0x20 then '\\' :: 'u' :: Text.hexFixed 4 char.toNat
    else [char]

def writeText (value : String) (rest : List Char) : List Char :=
  '"' :: (value.toList.flatMap escape ++ '"' :: rest)

def writeNumber (value : Number) (rest : List Char) : List Char :=
  match value with
  | .whole value => (Text.intText value).toList ++ rest
  | .double value => ((Decimal.document? value).getD "null").toList ++ rest

mutual

/-- The compact text of a value in front of a rest. -/
def write : Json → List Char → List Char
  | .null, rest => "null".toList ++ rest
  | .bool true, rest => "true".toList ++ rest
  | .bool false, rest => "false".toList ++ rest
  | .number value, rest => writeNumber value rest
  | .string value, rest => writeText value rest
  | .array items, rest => '[' :: writeItems items (']' :: rest)
  | .object fields, rest => '{' :: writeFields fields ('}' :: rest)

def writeItems : List Json → List Char → List Char
  | [], rest => rest
  | [item], rest => write item rest
  | item :: next :: more, rest => write item (',' :: writeItems (next :: more) rest)

def writeFields : List (String × Json) → List Char → List Char
  | [], rest => rest
  | [(key, value)], rest => writeText key (':' :: write value rest)
  | (key, value) :: next :: more, rest =>
    writeText key (':' :: write value (',' :: writeFields (next :: more) rest))

end

/-- The compact text of a document. -/
def compact (value : Json) : String := String.ofList (write value [])

end Json

end RouterPoll
