import RouterPoll.Text.Numeral
import RouterPoll.Text.Utf8

/-!
# Spelled characters

In a URL a character that may not stand for itself is spelled as the bytes of its UTF-8 text, each as a percent sign with two hexadecimal digits. Control characters and all characters beyond ASCII are spelled everywhere, and every part of a URL has some more.
-/

namespace RouterPoll

namespace Url

/-! ### Writing -/

def byteText (byte : UInt8) : List Char :=
  '%' :: ((Text.hexFixed 2 byte.toNat).map Char.toUpper)

def spell (char : Char) : List Char := (String.singleton char).toUTF8.toList.flatMap byteText

/-- A text with the characters of a class, the control characters and all that is not ASCII spelled. -/
def encode (spelled : Char → Bool) (chars : List Char) : List Char :=
  chars.flatMap fun char =>
    if char.toNat < 0x20 || 0x7E < char.toNat || spelled char then spell char else [char]

def inOpaque (_ : Char) : Bool := false

def inFragment (char : Char) : Bool := [' ', '"', '<', '>', '\x60'].contains char

def inPath (char : Char) : Bool := inFragment char || ['#', '?', '{', '}'].contains char

def inUserInfo (char : Char) : Bool :=
  inPath char || ['/', ':', ';', '=', '@', '[', '\\', ']', '^', '|'].contains char

def inQuery (char : Char) : Bool := [' ', '"', '#', '<', '>'].contains char

/-- The query of a web address spells an apostrophe as well. -/
def inWebQuery (char : Char) : Bool := inQuery char || char == '\x27'

/-! ### Reading -/

/-- The bytes of a text in which bytes may be spelled. -/
def bytesOf : List Char → List UInt8
  | '%' :: high :: low :: rest =>
    match Text.hexDigit? high, Text.hexDigit? low with
    | some high, some low => (high * 16 + low).toUInt8 :: bytesOf rest
    | _, _ => 0x25 :: bytesOf (high :: low :: rest)
  | char :: rest => (String.singleton char).toUTF8.toList ++ bytesOf rest
  | [] => []

/-- The text that a spelled text stands for, if its bytes are UTF-8. -/
def decode? (chars : List Char) : Option String := Text.decode? (bytesOf chars)

end Url

end RouterPoll
