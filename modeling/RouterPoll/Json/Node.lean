import RouterPoll.Json.Value

/-!
# What a text shows

The reading of a text that is meant to be a document. A `Node` is a document before anything is asked of it: fields keep their order and their repetitions, and two kinds of leaf say where the text falls short. An `unreadable` leaf is well formed and denotes no value, such as half of a surrogate pair; it can be skipped but not used. A `cut` leaf is the point where the text stops being a document; nothing follows it, and it can not even be skipped. So whoever walks a node in order meets the faults of a text in the order in which the text has them. What a cut is called depends on who meets it: one who reads the value there, one who skips it, or one who looks for a name.
-/

namespace RouterPoll

namespace Json

/-- Why a text is not a document. -/
inductive Flaw where
  | endInValue
  | endInText
  | endInArray
  | endInObject
  | expectedValue
  | expectedWord
  | expectedColon
  | expectedItemEnd
  | expectedFieldEnd
  | trailingComma
  | trailingText
  | keyNotText
  | badNumber
  | numberTooLarge
  | badEscape
  | controlInText
  | loneSurrogate
  | halfSurrogate
  | badEncoding
  | tooDeep
  deriving DecidableEq, Repr, Inhabited

namespace Flaw

def message : Flaw → String
  | endInValue => "EOF while parsing a value"
  | endInText => "EOF while parsing a string"
  | endInArray => "EOF while parsing a list"
  | endInObject => "EOF while parsing an object"
  | expectedValue => "expected value"
  | expectedWord => "expected ident"
  | expectedColon => "expected `:`"
  | expectedItemEnd => "expected `,` or `]`"
  | expectedFieldEnd => "expected `,` or `\x7d`"
  | trailingComma => "trailing comma"
  | trailingText => "trailing characters"
  | keyNotText => "key must be a string"
  | badNumber => "invalid number"
  | numberTooLarge => "number out of range"
  | badEscape => "invalid escape"
  | controlInText => "control character (\\u0000-\\u001F) found while parsing a string"
  | loneSurrogate => "lone leading surrogate in hex escape"
  | halfSurrogate => "unexpected end of hex escape"
  | badEncoding => "invalid unicode code point"
  | tooDeep => "recursion limit exceeded"

end Flaw

/-- How a text stops being a document. A `plain` cut has one flaw for everyone. -/
inductive Cut where
  | plain (flaw : Flaw)
  | inText (spoiled : Option Flaw) (flaw : Flaw)
  | inWord (flaw : Flaw)
  | inNumber (flaw : Flaw)
  | commaBeforeBracket
  | commaBeforeBrace
  | commaBeforeEnd
  deriving DecidableEq, Repr, Inhabited

namespace Cut

/-- The flaw for one who reads what is cut. A text is given up at its first flaw. -/
def reading : Cut → Flaw
  | plain flaw => flaw
  | inText spoiled flaw => spoiled.getD flaw
  | inWord flaw => flaw
  | inNumber flaw => flaw
  | commaBeforeBracket => .trailingComma
  | commaBeforeBrace => .trailingComma
  | commaBeforeEnd => .endInValue

/-- The flaw for one who skips it, who expects more after a comma and is strict about numbers. -/
def skipping : Cut → Flaw
  | plain flaw => flaw
  | inText _ flaw => flaw
  | inWord flaw => flaw
  | inNumber _ => .badNumber
  | commaBeforeBracket => .expectedValue
  | commaBeforeBrace => .keyNotText
  | commaBeforeEnd => .endInObject

/-- The flaw for one who looks for a name, to whom a word or a number is no value at all. -/
def naming : Cut → Flaw
  | inWord _ => .expectedValue
  | inNumber _ => .expectedValue
  | cut => cut.reading

end Cut

/-- A document as its text shows it. -/
inductive Node where
  | null
  | bool (value : Bool)
  | number (value : Number)
  | string (value : String)
  | array (items : List Node)
  | object (entries : List (Except Flaw String × Node))
  | unreadable (flaw : Flaw)
  | cut (cut : Cut)
  deriving Inhabited

/-- The key of a field, as far as it can be read. -/
abbrev Key := Except Flaw String

namespace Node

mutual

/-- The flaw that stops whoever skips over a node. -/
def stop? : Node → Option Flaw
  | .cut ending => some ending.skipping
  | .array items => stopInItems? items
  | .object entries => stopInEntries? entries
  | _ => none

def stopInItems? : List Node → Option Flaw
  | [] => none
  | item :: rest => (stop? item).or (stopInItems? rest)

def stopInEntries? : List (Key × Node) → Option Flaw
  | [] => none
  | (_, value) :: rest => (stop? value).or (stopInEntries? rest)

end

/-- A field put into an object; an earlier field with its key is replaced in place. -/
def insertField (key : String) (value : Json) : List (String × Json) → List (String × Json)
  | [] => [(key, value)]
  | (known, old) :: rest =>
    if known == key then (key, value) :: rest else (known, old) :: insertField key value rest

mutual

/-- The value a node denotes, if it nests at most `room` deep. Of several fields with one key the last counts. -/
def value? : Nat → Node → Except Flaw Json
  | _, .null => .ok .null
  | _, .bool value => .ok (.bool value)
  | _, .number value => .ok (.number value)
  | _, .string value => .ok (.string value)
  | _, .unreadable flaw => .error flaw
  | _, .cut ending => .error ending.reading
  | 0, .array _ => .error .tooDeep
  | 0, .object _ => .error .tooDeep
  | room + 1, .array items => (itemValues? room items).map .array
  | room + 1, .object entries => (fieldValues? room entries []).map .object

def itemValues? : Nat → List Node → Except Flaw (List Json)
  | _, [] => .ok []
  | room, item :: rest => do
    let value ← value? room item
    let values ← itemValues? room rest
    return value :: values

def fieldValues? : Nat → List (Key × Node) → List (String × Json) →
    Except Flaw (List (String × Json))
  | _, [], fields => .ok fields
  | room, (key, item) :: rest, fields => do
    let key ← key
    let value ← value? room item
    fieldValues? room rest (insertField key value fields)

end

mutual

/-- The node of a value, with its fields in the order they have. -/
def ofValue : Json → Node
  | .null => .null
  | .bool value => .bool value
  | .number value => .number value
  | .string value => .string value
  | .array items => .array (ofItems items)
  | .object fields => .object (ofFields fields)

def ofItems : List Json → List Node
  | [] => []
  | item :: rest => ofValue item :: ofItems rest

def ofFields : List (String × Json) → List (Key × Node)
  | [] => []
  | (key, value) :: rest => (.ok key, ofValue value) :: ofFields rest

end

end Node

/-- How deep arrays and objects may stand inside each other where any value is accepted. -/
def depthLimit : Nat := 127

/-- The node of a whole text, and the flaw of what follows it, if anything does. -/
structure Document where
  root : Node
  trailing : Option Flaw
  deriving Inhabited

namespace Document

/-- The value of a text that is one document and nothing else. -/
def value? (document : Document) : Except Flaw Json := do
  let value ← document.root.value? depthLimit
  match document.trailing with
  | some flaw => .error flaw
  | none => .ok value

end Document

end Json

end RouterPoll
