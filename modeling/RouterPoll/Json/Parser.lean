import RouterPoll.Json.Node
import RouterPoll.Decimal.Reader
import RouterPoll.Text.Utf8

/-!
# Reading documents

The grammar of JSON over the marks of a text. Reading never fails: it gives the node of the text together with the marks that follow it, and where the text is no document the node says so. Values inside each other are counted down by a fuel of one more than the number of marks, which a text can not exhaust because every value and every separator takes a mark.
-/

namespace RouterPoll

namespace Json

namespace Parser

open Text (Mark)

def isSpace : Mark → Bool
  | some ' ' => true
  | some '\n' => true
  | some '\t' => true
  | some '\r' => true
  | _ => false

def skipSpace (marks : List Mark) : List Mark := marks.dropWhile isSpace

/-! ### Texts in quotation marks -/

/-- A scanned text: closed, with its content or the reason why it has none, or stopped before its closing mark. -/
inductive Scanned where
  | closed (content : Except Flaw String) (rest : List Mark)
  | stopped (cut : Cut)

/-- How many bytes a mark takes. -/
def byteSize : Mark → Nat
  | some char => char.utf8Size
  | none => 1

/-- Four hexadecimal digits as one unit of UTF-16. Four bytes that are something else are no escape, and with fewer the text is at its end. -/
def unit? : List Mark → Except Flaw (Nat × List Mark)
  | some a :: some b :: some c :: some d :: rest =>
    match Text.hexDigits? [a, b, c, d] with
    | some value => .ok (value, rest)
    | none => .error .badEscape
  | marks =>
    .error (if (marks.map byteSize).foldl (· + ·) 0 < 4 then .endInText else .badEscape)

def isHigh (unit : Nat) : Bool := 0xD800 ≤ unit && unit ≤ 0xDBFF

def isLow (unit : Nat) : Bool := 0xDC00 ≤ unit && unit ≤ 0xDFFF

/-- What an escape adds to the content. -/
inductive Escaped where
  | char (char : Char)
  | flawed (flaw : Flaw)

/-- The escape after a backslash, and how many marks it takes after the backslash. -/
def escaped (marks : List Mark) : Except Flaw (Escaped × Nat) :=
  match marks with
  | [] => .error .endInText
  | some '"' :: _ => .ok (.char '"', 1)
  | some '\\' :: _ => .ok (.char '\\', 1)
  | some '/' :: _ => .ok (.char '/', 1)
  | some 'b' :: _ => .ok (.char (Char.ofNat 0x08), 1)
  | some 'f' :: _ => .ok (.char (Char.ofNat 0x0C), 1)
  | some 'n' :: _ => .ok (.char '\n', 1)
  | some 'r' :: _ => .ok (.char '\r', 1)
  | some 't' :: _ => .ok (.char '\t', 1)
  | some 'u' :: rest => do
    let (unit, rest) ← unit? rest
    if isLow unit then .ok (.flawed .loneSurrogate, 5)
    else if isHigh unit then
      match rest with
      | some '\\' :: some 'u' :: more =>
        match unit? more with
        | .error flaw => .error flaw
        | .ok (second, _) =>
          if isLow second then
            .ok (.char (Char.ofNat ((unit - 0xD800) * 1024 + (second - 0xDC00) + 0x10000)), 11)
          else .ok (.flawed .loneSurrogate, 5)
      | [some '\\'] => .error .endInText
      | [] => .error .endInText
      | _ => .ok (.flawed .halfSurrogate, 5)
    else .ok (.char (Char.ofNat unit), 5)
  | _ :: _ => .error .badEscape

/-- The content collected so far, newest first, unless a flaw spoils it. -/
abbrev Content := Except Flaw (List Char)

def Content.add (char : Char) (content : Content) : Content := content.map (char :: ·)

def Content.spoil (flaw : Flaw) : Content → Content
  | .ok _ => .error flaw
  | .error first => .error first

/-- The cut where the text stops before its closing mark. -/
def Content.cut (flaw : Flaw) : Content → Cut
  | .ok _ => .inText none flaw
  | .error first => .inText (some first) flaw

/-- A text after its opening mark; `skip` counts the marks that the last escape still covers. -/
def scanText : Nat → Content → List Mark → Scanned
  | _, content, [] => .stopped (content.cut .endInText)
  | skip + 1, content, _ :: rest => scanText skip content rest
  | 0, content, some '"' :: rest =>
    .closed (content.map fun chars => String.ofList chars.reverse) rest
  | 0, content, some '\\' :: rest =>
    match escaped rest with
    | .error flaw => .stopped (content.cut flaw)
    | .ok (.char char, taken) => scanText taken (content.add char) rest
    | .ok (.flawed flaw, taken) => scanText taken (content.spoil flaw) rest
  | 0, content, some char :: rest =>
    if char.toNat < 0x20 then .stopped (content.cut .controlInText)
    else scanText 0 (content.add char) rest
  | 0, content, none :: rest => scanText 0 (content.spoil .badEncoding) rest

/-! ### Numbers and words -/

def isDigit : Mark → Bool
  | some char => char.isDigit
  | none => false

/-- The digits at the front of the marks. -/
def spanDigits (marks : List Mark) : List Char × List Mark :=
  ((marks.takeWhile isDigit).filterMap id, marks.dropWhile isDigit)

/-- One or more digits. -/
def someDigits (marks : List Mark) : Except Flaw (List Char × List Mark) :=
  match spanDigits marks with
  | ([], []) => .error .endInValue
  | ([], _ :: _) => .error .badNumber
  | (digits, rest) => .ok (digits, rest)

/-- The whole part of a number: a zero alone, or digits that begin with another. -/
def wholePart (marks : List Mark) : Except Flaw (List Char × List Mark) := do
  let (digits, rest) ← someDigits marks
  match digits with
  | '0' :: _ :: _ => .error .badNumber
  | _ => .ok (digits, rest)

def fractionPart : List Mark → Except Flaw (Option (List Char) × List Mark)
  | some '.' :: rest => (someDigits rest).map fun (digits, rest) => (some digits, rest)
  | marks => .ok (none, marks)

def exponentPart : List Mark → Except Flaw (Option Int × List Mark)
  | some letter :: rest =>
    if letter == 'e' || letter == 'E' then do
      let (negative, rest) := match rest with
        | some '-' :: more => (true, more)
        | some '+' :: more => (false, more)
        | _ => (false, rest)
      let (digits, rest) ← someDigits rest
      let size : Int := (Text.digits? digits).getD 0
      .ok (some (if negative then -size else size), rest)
    else .ok (none, some letter :: rest)
  | marks => .ok (none, marks)

/-- The value of a numeral: a whole number when it is written as one and fits 64 bits with or without a sign, and a double otherwise. -/
def numberNode (negative : Bool) (whole : List Char) (fraction : Option (List Char))
    (exponent : Option Int) : Node :=
  let double (_ : Unit) : Node :=
    match Decimal.scaled? whole (fraction.getD []) (exponent.getD 0) with
    | some value => .number (.double (Decimal.negateIf negative value))
    | none => .unreadable .numberTooLarge
  match fraction, exponent with
  | none, none =>
    let size := (Text.digits? whole).getD 0
    if negative then
      if 0 < size && size ≤ Text.signedLimit64 then .number (.whole (-(size : Int))) else double ()
    else if size < Text.limit64 then .number (.whole size) else double ()
  | _, _ => double ()

def readNumber (marks : List Mark) : Except Flaw (Node × List Mark) := do
  let (negative, rest) := match marks with
    | some '-' :: more => (true, more)
    | _ => (false, marks)
  let (whole, rest) ← wholePart rest
  let (fraction, rest) ← fractionPart rest
  let (exponent, rest) ← exponentPart rest
  return (numberNode negative whole fraction exponent, rest)

/-- The rest of a word, which has to follow letter by letter. -/
def readWord (node : Node) : List Char → List Mark → Except Flaw (Node × List Mark)
  | [], rest => .ok (node, rest)
  | _ :: _, [] => .error .endInValue
  | letter :: letters, mark :: rest =>
    if mark == some letter then readWord node letters rest else .error .expectedWord

/-- A node, or the cut where the text goes wrong. -/
def orCut (cut : Flaw → Cut) : Except Flaw (Node × List Mark) → Node × List Mark
  | .ok result => result
  | .error flaw => (.cut (cut flaw), [])

/-- The last field of an object that is cut where a key should be. -/
def cutEntry (cut : Cut) : List (Key × Node) := [(.error cut.reading, .cut cut)]

def textNode : Except Flaw String → Node
  | .ok content => .string content
  | .error flaw => .unreadable flaw

/-! ### Values -/

mutual

/-- A value at the front of the marks, and what follows it. -/
def readValue : Nat → List Mark → Node × List Mark
  | 0, _ => (.cut (.plain .tooDeep), [])
  | fuel + 1, marks =>
    match skipSpace marks with
    | [] => (.cut (.plain .endInValue), [])
    | some '"' :: rest =>
      match scanText 0 (.ok []) rest with
      | .closed content rest => (textNode content, rest)
      | .stopped cut => (.cut cut, [])
    | some '[' :: rest =>
      let (items, rest) := readItems fuel true rest
      (.array items, rest)
    | some '{' :: rest =>
      let (entries, rest) := readEntries fuel true rest
      (.object entries, rest)
    | some 'n' :: rest => orCut .inWord (readWord .null "ull".toList rest)
    | some 't' :: rest => orCut .inWord (readWord (.bool true) "rue".toList rest)
    | some 'f' :: rest => orCut .inWord (readWord (.bool false) "alse".toList rest)
    | some char :: rest =>
      if char == '-' || char.isDigit then orCut .inNumber (readNumber (some char :: rest))
      else (.cut (.plain .expectedValue), [])
    | none :: _ => (.cut (.plain .expectedValue), [])

/-- The items of an array after its opening bracket or after an item. -/
def readItems : Nat → Bool → List Mark → List Node × List Mark
  | 0, _, _ => ([.cut (.plain .tooDeep)], [])
  | fuel + 1, isFirst, marks =>
    match skipSpace marks with
    | [] => ([.cut (.plain .endInArray)], [])
    | some ']' :: rest => ([], rest)
    | some ',' :: rest =>
      if isFirst then ([.cut (.plain .expectedValue)], [])
      else match skipSpace rest with
        | some ']' :: _ => ([.cut .commaBeforeBracket], [])
        | rest =>
          let (item, rest) := readValue fuel rest
          let (items, rest) := readItemsAfter fuel item rest
          (item :: items, rest)
    | rest =>
      if isFirst then
        let (item, rest) := readValue fuel rest
        let (items, rest) := readItemsAfter fuel item rest
        (item :: items, rest)
      else ([.cut (.plain .expectedItemEnd)], [])

/-- The items after one that was just read; there are none after a cut. -/
def readItemsAfter : Nat → Node → List Mark → List Node × List Mark
  | 0, _, _ => ([], [])
  | fuel + 1, item, rest =>
    match item.stop? with
    | some _ => ([], [])
    | none => readItems fuel false rest

/-- The fields of an object after its opening brace or after a field. -/
def readEntries : Nat → Bool → List Mark → List (Key × Node) × List Mark
  | 0, _, _ => (cutEntry (.plain .tooDeep), [])
  | fuel + 1, isFirst, marks =>
    match skipSpace marks with
    | [] => (cutEntry (.plain .endInObject), [])
    | some '}' :: rest => ([], rest)
    | some ',' :: rest =>
      if isFirst then (cutEntry (.plain .keyNotText), [])
      else match skipSpace rest with
        | [] => (cutEntry .commaBeforeEnd, [])
        | some '}' :: _ => (cutEntry .commaBeforeBrace, [])
        | rest => readEntry fuel rest
    | rest =>
      if isFirst then readEntry fuel rest
      else (cutEntry (.plain .expectedFieldEnd), [])

/-- A field that begins here, and those after it. -/
def readEntry : Nat → List Mark → List (Key × Node) × List Mark
  | 0, _ => (cutEntry (.plain .tooDeep), [])
  | fuel + 1, marks =>
    match marks with
    | some '"' :: rest =>
      match scanText 0 (.ok []) rest with
      | .stopped cut => (cutEntry cut, [])
      | .closed key rest =>
        match skipSpace rest with
        | some ':' :: rest =>
          let (value, rest) := readValue fuel rest
          match value.stop? with
          | some _ => ([(key, value)], [])
          | none =>
            let (entries, rest) := readEntries fuel false rest
            ((key, value) :: entries, rest)
        | [] => ([(key, .cut (.plain .endInObject))], [])
        | _ => ([(key, .cut (.plain .expectedColon))], [])
    | _ => (cutEntry (.plain .keyNotText), [])

end

/-- The document of a text given as marks. -/
def document (marks : List Mark) : Document :=
  let (root, rest) := readValue (3 * marks.length + 3) marks
  match root.stop?, skipSpace rest with
  | none, _ :: _ => ⟨root, some .trailingText⟩
  | _, _ => ⟨root, none⟩

end Parser

/-- The document of a text. -/
def Document.ofText (text : String) : Document := Parser.document (Text.marksOfText text)

/-- The document of bytes, of which some may encode no character. -/
def Document.ofBytes (bytes : List UInt8) : Document := Parser.document (Text.marks bytes)

end Json

end RouterPoll
