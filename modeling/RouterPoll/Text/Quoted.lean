import RouterPoll.Text.Numeral
import RouterPoll.Text.Shape

/-!
# Quoted text

A text between quotation marks in which every character can be read: marks and backslashes get a backslash, line ends and tabs have their letters, and a character without a shape of its own is spelled by its number.
-/

namespace RouterPoll

namespace Text

/-- A character by its number, in braces. -/
def spelled (char : Char) : List Char :=
  ['\\', 'u', '{'] ++ (hexText char.toNat).toList ++ ['}']

def quoteChar (char : Char) : List Char :=
  match char with
  | '"' => ['\\', '"']
  | '\\' => ['\\', '\\']
  | '\n' => ['\\', 'n']
  | '\r' => ['\\', 'r']
  | '\t' => ['\\', 't']
  | '\x00' => ['\\', '0']
  | char => if isShapeless char then spelled char else [char]

def quoted (text : String) : String :=
  String.ofList ('"' :: (text.toList.flatMap quoteChar ++ ['"']))

end Text

end RouterPoll
