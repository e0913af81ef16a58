import RouterPoll.Text.Numeral

/-!
# Identifiers

The 128-bit identifiers of devices and tenants. They are written as five groups of lower-case hexadecimal digits, and also read in upper case, without the hyphens, in braces, or as a URN in any case. The order of the numbers is the order of their written forms.
-/

namespace RouterPoll

structure Uuid where
  value : BitVec 128
  deriving DecidableEq, Hashable, Inhabited

namespace Uuid

/-- The identifier all of whose bits are zero. -/
def nil : Uuid := ⟨0⟩

def notAfter (left right : Uuid) : Bool := left.value.toNat ≤ right.value.toNat

/-- Hexadecimal digits with hyphens after the 8th, 12th, 16th and 20th. -/
def hyphenate (digits : List Char) : List Char :=
  digits.take 8 ++ '-' :: ((digits.drop 8).take 4 ++ '-' :: ((digits.drop 12).take 4 ++ '-' ::
    ((digits.drop 16).take 4 ++ '-' :: digits.drop 20)))

def chars (id : Uuid) : List Char := hyphenate (Text.hexFixed 32 id.value.toNat)

def text (id : Uuid) : String := String.ofList id.chars

def ofHexDigits? (digits : List Char) : Option Uuid :=
  if digits.length == 32 then (Text.hexDigits? digits).map fun value => ⟨BitVec.ofNat 128 value⟩
  else none

/-- The form with hyphens, which have to stand at their places. -/
def ofHyphenated? (chars : List Char) : Option Uuid :=
  if chars.length == 36 && chars[8]? == some '-' && chars[13]? == some '-'
      && chars[18]? == some '-' && chars[23]? == some '-' then
    ofHexDigits? (chars.take 8 ++ (chars.drop 9).take 4 ++ (chars.drop 14).take 4
      ++ (chars.drop 19).take 4 ++ chars.drop 24)
  else none

def urnStart : List Char := "urn:uuid:".toList

def parse? (text : String) : Option Uuid :=
  let chars := text.toList
  if chars.length == 32 then ofHexDigits? chars
  else if chars.length == 36 then ofHyphenated? chars
  else if chars.length == 38 then
    if chars.head? == some '{' && chars.getLast? == some '}' then
      ofHyphenated? ((chars.drop 1).take 36)
    else none
  else if chars.length == 45 then
    if (chars.take 9).map Char.toLower == urnStart then ofHyphenated? (chars.drop 9) else none
  else none

end Uuid

end RouterPoll
