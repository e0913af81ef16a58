/-!
# Blank characters

The characters with the `White_Space` property, and the text that is left when they are taken off both ends. Every reader of router output that trims does it through this table, so it agrees with itself on non-ASCII input.
-/

namespace RouterPoll

namespace Text

/-- The `White_Space` property, as the code points that have it. -/
def isBlank (char : Char) : Bool :=
  let code := char.toNat
  (0x09 ≤ code && code ≤ 0x0D) || code == 0x20 || code == 0x85 || code == 0xA0 || code == 0x1680
    || (0x2000 ≤ code && code ≤ 0x200A) || code == 0x2028 || code == 0x2029 || code == 0x202F
    || code == 0x205F || code == 0x3000

/-- A list without the longest run of `drop` characters at its end. -/
def dropEndWhile (drop : Char → Bool) (chars : List Char) : List Char :=
  (chars.reverse.dropWhile drop).reverse

def trimBlank (chars : List Char) : List Char :=
  dropEndWhile isBlank (chars.dropWhile isBlank)

end Text

end RouterPoll
