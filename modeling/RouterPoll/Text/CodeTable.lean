import RouterPoll.Text.Numeral

/-!
# Tables of code points

Properties of characters, written as tables that can be read by eye. A set is a list of rows of closed ranges in hexadecimal, `300-36f` or `ad`, in rising order and separated by blanks. Entries are found by halving.
-/

namespace RouterPoll

namespace Text

/-- A number in hexadecimal; there is none in an empty text. -/
def code? (text : String) : Option Nat := hexDigits? text.toList

/-- The entries of all rows. -/
def entries (rows : List String) : List String := rows.flatMap (·.splitOn " ")

structure CodeRange where
  first : Nat
  last : Nat
  deriving DecidableEq, Repr

def CodeRange.ofText? (text : String) : Option CodeRange :=
  match text.splitOn "-" with
  | [code] => (code? code).map fun code => ⟨code, code⟩
  | [first, last] => do return ⟨← code? first, ← code? last⟩
  | _ => none

/-- The last entry that begins at or before a code point, between two places of a table that rises. -/
def lastUpTo (start : α → Nat) (table : Array α) (code low high : Nat) : Option α :=
  if low + 1 < high then
    match table[(low + high) / 2]? with
    | some entry =>
      if start entry ≤ code then lastUpTo start table code ((low + high) / 2) high
      else lastUpTo start table code low ((low + high) / 2)
    | none => none
  else table[low]?.filter (start · ≤ code)
termination_by high - low
decreasing_by all_goals omega

/-- A set of code points, as ranges in rising order. -/
abbrev CodeSet := Array CodeRange

namespace CodeSet

def ofRows (rows : List String) : CodeSet := ((entries rows).filterMap CodeRange.ofText?).toArray

def contains (set : CodeSet) (code : Nat) : Bool :=
  (lastUpTo CodeRange.first set code 0 set.size).any fun range => code ≤ range.last

end CodeSet

end Text

end RouterPoll
