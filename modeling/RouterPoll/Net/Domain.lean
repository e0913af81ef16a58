import RouterPoll.Net.Domain.Composition
import RouterPoll.Net.Domain.Direction
import RouterPoll.Net.Domain.Joiner
import RouterPoll.Net.Domain.Mapping
import RouterPoll.Text.Punycode

/-!
# Domain names

Domain names of any script, written in ASCII. Every character is replaced by what it stands for and the text is composed; then each label between two points is written with letters, digits and hyphens behind the mark `xn--`, unless it is ASCII already. A label that comes with the mark must hold what writing it would give.
-/

namespace RouterPoll

namespace Domain

/-- A label as it is read and as it is written. -/
structure Label where
  text : List Char
  written : List Char
  deriving DecidableEq, Repr

def isAscii (char : Char) : Bool := char.toNat < 128

/-- Whether a label begins with a letter and its joiners stand where they may. -/
def isWellFormed (text : List Char) : Bool :=
  !text.head?.any isMark && joinersFit [] text

namespace Label

/-- The text of the digits behind the mark. -/
def decode? (digits : List Char) : Option (List Char) :=
  (Punycode.decode? digits).filter fun text =>
    !text.all isAscii && text.all isPlain && composed text == text && isWellFormed text

def ofText? (text : List Char) : Option Label :=
  match text with
  | 'x' :: 'n' :: '-' :: '-' :: digits => (decode? digits).map fun decoded => ⟨decoded, text⟩
  | _ =>
    if text.all isAscii then some ⟨text, text⟩
    else if isWellFormed text then
      some ⟨text, ['x', 'n', '-', '-'] ++ Punycode.encode text⟩
    else none

end Label

/-- The characters of ASCII that no domain name holds. -/
def isForbidden (char : Char) : Bool :=
  char.toNat ≤ 0x20 || char.toNat == 0x7F
    || ['#', '%', '/', ':', '<', '>', '?', '@', '[', '\\', ']', '^', '|'].contains char

/-- The labels of a domain name. -/
def labels? (chars : List Char) : Option (List Label) := do
  let meanings ← chars.mapM meaning?
  let labels ← ((composed meanings.flatten).splitOn '.').mapM Label.ofText?
  let isMixed := labels.any fun label => hasRightToLeft label.text
  if isMixed && !labels.all fun label => readsOneWay label.text then none else some labels

/-- A domain name in ASCII. -/
def toAscii? (chars : List Char) : Option (List Char) := do
  let labels ← labels? chars
  let written := ['.'].intercalate (labels.map Label.written)
  if written.any isForbidden then none else some written

end Domain

end RouterPoll
