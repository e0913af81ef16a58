/-!
# UTF-8 text

Bytes read as characters. A document is first cut into *marks*: a character for every well-formed sequence, and `none` for every longest run of bytes that begins a sequence and does not complete it. Strict reading asks for a document without such runs; lenient reading shows each of them as one replacement character.
-/

namespace RouterPoll

namespace Text

/-- A character of a document, or bytes that encode no character. -/
abbrev Mark := Option Char

private def isContinuation (byte : UInt8) : Bool := 0x80 ≤ byte && byte ≤ 0xBF

private def tail (byte : UInt8) : Nat := byte.toNat % 64

/-- The bounds of the second byte that a leading byte allows, and how many bytes follow it. -/
private def lead? (byte : UInt8) : Option (UInt8 × UInt8 × Nat) :=
  if 0xC2 ≤ byte && byte ≤ 0xDF then some (0x80, 0xBF, 1)
  else if byte == 0xE0 then some (0xA0, 0xBF, 2)
  else if byte == 0xED then some (0x80, 0x9F, 2)
  else if 0xE1 ≤ byte && byte ≤ 0xEF then some (0x80, 0xBF, 2)
  else if byte == 0xF0 then some (0x90, 0xBF, 3)
  else if 0xF1 ≤ byte && byte ≤ 0xF3 then some (0x80, 0xBF, 3)
  else if byte == 0xF4 then some (0x80, 0x8F, 3)
  else none

/-- The first mark of a non-empty run of bytes, and how many of the bytes after the first it takes. -/
private def firstMark (byte : UInt8) (rest : List UInt8) : Mark × Nat :=
  if byte < 0x80 then (some (Char.ofNat byte.toNat), 0)
  else match lead? byte with
    | none => (none, 0)
    | some (low, high, count) =>
      match rest with
      | [] => (none, 0)
      | second :: more =>
        if !(low ≤ second && second ≤ high) then (none, 0)
        else if count == 1 then
          (some (Char.ofNat (byte.toNat % 32 * 64 + tail second)), 1)
        else match more with
          | [] => (none, 1)
          | third :: more =>
            if !isContinuation third then (none, 1)
            else if count == 2 then
              (some (Char.ofNat ((byte.toNat % 16 * 64 + tail second) * 64 + tail third)), 2)
            else match more with
              | [] => (none, 2)
              | fourth :: _ =>
                if !isContinuation fourth then (none, 2)
                else (some (Char.ofNat
                  (((byte.toNat % 8 * 64 + tail second) * 64 + tail third) * 64 + tail fourth)), 3)

/-- The marks of a run of bytes; `skip` counts the bytes the last mark still covers. -/
private def marksFrom : Nat → List UInt8 → List Mark
  | _, [] => []
  | skip + 1, _ :: rest => marksFrom skip rest
  | 0, byte :: rest =>
    let (mark, taken) := firstMark byte rest
    mark :: marksFrom taken rest

def marks (bytes : List UInt8) : List Mark := marksFrom 0 bytes

def marksOfText (text : String) : List Mark := text.toList.map some

/-- The text of bytes that are UTF-8 throughout. -/
def decode? (bytes : List UInt8) : Option String :=
  ((marks bytes).mapM id).map String.ofList

/-- The text of any bytes, with U+FFFD where they are not UTF-8. -/
def decodeLenient (bytes : List UInt8) : String :=
  String.ofList ((marks bytes).map (·.getD (Char.ofNat 0xFFFD)))

end Text

end RouterPoll
