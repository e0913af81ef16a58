import RouterPoll.Text.Numeral

/-!
# Network addresses

Addresses of version 4 and version 6 and their text. Four octets are written in decimal and read without leading zeros. Eight groups are written in hexadecimal with the first longest run of at least two zero groups left out; an address that carries one of version 4 in its last groups behind `ffff` shows it in decimal.
-/

namespace RouterPoll

inductive Address where
  | v4 (a b c d : UInt8)
  | v6 (groups : Vector UInt16 8)
  deriving DecidableEq, Repr

namespace Address

/-! ### Writing -/

def octetsText (octets : List Nat) : String :=
  String.intercalate "." (octets.map Text.natText)

/-- The length of the run of zero groups at the front. -/
def zeroRun (groups : List Nat) : Nat := (groups.takeWhile (· == 0)).length

/-- The first longest run of zero groups, as its place and length. -/
def longestZeroRun : Nat → List Nat → Nat × Nat
  | _, [] => (0, 0)
  | place, group :: rest =>
    let later := longestZeroRun (place + 1) rest
    let here := zeroRun (group :: rest)
    if 0 < here && later.2 ≤ here then (place, here) else later

def groupsText (groups : List Nat) : String :=
  String.intercalate ":" (groups.map Text.hexText)

/-- Groups with the first longest run of at least two zeros left out. -/
def compressed (groups : List Nat) : String :=
  let (place, length) := longestZeroRun 0 groups
  if 1 < length then
    groupsText (groups.take place) ++ "::" ++ groupsText (groups.drop (place + length))
  else groupsText groups

def v6Text (groups : List Nat) : String :=
  match groups with
  | [0, 0, 0, 0, 0, 0xFFFF, high, low] =>
    "::ffff:" ++ octetsText [high / 256, high % 256, low / 256, low % 256]
  | _ => compressed groups

def text : Address → String
  | v4 a b c d => octetsText [a.toNat, b.toNat, c.toNat, d.toNat]
  | v6 groups => v6Text (groups.toList.map UInt16.toNat)

/-- The address as the host of a URL or of a socket, where groups stand in brackets. -/
def hostText : Address → String
  | v4 a b c d => text (v4 a b c d)
  | v6 groups => "[" ++ text (v6 groups) ++ "]"

/-! ### Reading -/

/-- A decimal octet at the front: one to three digits, no leading zero, at most 255. -/
def octet? (chars : List Char) : Option (Nat × List Char) :=
  let run := chars.takeWhile Char.isDigit
  match Text.digits? run with
  | none => none
  | some value =>
    if 3 < run.length || 255 < value || (1 < run.length && run.head? == some '0') then none
    else some (value, chars.drop run.length)

def expect (char : Char) : List Char → Option (List Char)
  | next :: rest => if next == char then some rest else none
  | [] => none

/-- Four octets at the front. -/
def octets? (chars : List Char) : Option ((Nat × Nat × Nat × Nat) × List Char) := do
  let (a, chars) ← octet? chars
  let (b, chars) ← octet? (← expect '.' chars)
  let (c, chars) ← octet? (← expect '.' chars)
  let (d, chars) ← octet? (← expect '.' chars)
  return ((a, b, c, d), chars)

/-- A group at the front: one to four hexadecimal digits. -/
def group? (chars : List Char) : Option (Nat × List Char) :=
  let run := chars.takeWhile fun char => (Text.hexDigit? char).isSome
  match Text.hexDigits? run with
  | none => none
  | some value => if 4 < run.length then none else some (value, chars.drop run.length)

/-- The groups at the front, at most `room` of them, whether they end in four octets, and what follows. Octets need the place of two groups. -/
def readGroups : Nat → Bool → List Char → List Nat × Bool × List Char
  | 0, _, chars => ([], false, chars)
  | room + 1, isFirst, chars =>
    match (if isFirst then some chars else expect ':' chars) with
    | none => ([], false, chars)
    | some inner =>
      match (if room == 0 then none else octets? inner) with
      | some ((a, b, c, d), rest) => ([a * 256 + b, c * 256 + d], true, rest)
      | none =>
        match group? inner with
        | none => ([], false, chars)
        | some (group, rest) =>
          let (groups, octets, rest) := readGroups room false rest
          (group :: groups, octets, rest)

def ofGroups? (groups : List Nat) : Option Address :=
  if hlength : groups.length = 8 then
    some (.v6 ⟨(groups.map Nat.toUInt16).toArray, by simp [hlength]⟩)
  else none

/-- Eight groups, or fewer around one gap that stands for at least one zero group. -/
def parseGroups? (chars : List Char) : Option Address :=
  let (head, octets, rest) := readGroups 8 true chars
  if head.length == 8 then if rest.isEmpty then ofGroups? head else none
  else if octets then none
  else match rest with
    | ':' :: ':' :: rest =>
      let (tail, _, rest) := readGroups (7 - head.length) true rest
      if rest.isEmpty then
        ofGroups? (head ++ List.replicate (8 - head.length - tail.length) 0 ++ tail)
      else none
    | _ => none

def parseOctets? (chars : List Char) : Option Address :=
  match octets? chars with
  | some ((a, b, c, d), []) => some (.v4 a.toUInt8 b.toUInt8 c.toUInt8 d.toUInt8)
  | _ => none

def parse? (text : String) : Option Address :=
  (parseOctets? text.toList).or (parseGroups? text.toList)

end Address

end RouterPoll
