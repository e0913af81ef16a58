import RouterPoll.Net.Address
import RouterPoll.Net.Domain
import RouterPoll.Net.Url.Spelling

/-!
# Hosts of URLs

The host of a web address is an address in brackets, a domain name or up to four numbers that make an address; which of the last two it is decides what stands behind its last point. Its characters may be spelled. The host of any other URL is an address in brackets or a text of its own.
-/

namespace RouterPoll

namespace Host

/-! ### Addresses -/

/-- A number of an address host: in base 16 after a zero and an x, in base 8 after a zero, else in base 10. -/
def number? (chars : List Char) : Option Nat :=
  let ofBase (base : Nat) (digits : List Char) : Option Nat :=
    Text.readDigits base (fun char => (Text.hexDigit? char).filter (· < base)) 0 digits
  match chars with
  | [] => none
  | '0' :: 'x' :: rest => ofBase 16 rest
  | '0' :: 'X' :: rest => ofBase 16 rest
  | '0' :: next :: rest => ofBase 8 (next :: rest)
  | digits => ofBase 10 digits

/-- The parts of a host between its points; a point at the end counts for nothing. -/
def parts (host : List Char) : List (List Char) :=
  let parts := host.splitOn '.'
  if parts.length > 1 && parts.getLast? == some [] then parts.dropLast else parts

def endsInNumber (parts : List (List Char)) : Bool :=
  match parts.getLast? with
  | some [] => false
  | some last => last.all Char.isDigit || (number? last).isSome
  | none => false

/-- The address of numeric parts, of which the last may fill several octets. -/
def ofNumbers? (parts : List (List Char)) : Option String := do
  let numbers ← parts.mapM number?
  let last ← numbers.getLast?
  let front := numbers.dropLast
  if 4 < numbers.length || front.any (255 < ·) || Nat.pow 256 (4 - front.length) ≤ last then none
  else
    let places := front.zipIdx.map fun (number, place) => number * Nat.pow 256 (3 - place)
    let value := places.foldl (· + ·) last
    some (Address.octetsText
      [value / 16777216, value / 65536 % 256, value / 256 % 256, value % 256])

/-- An address whose opening bracket is taken. -/
def ofBrackets? (rest : List Char) : Option String :=
  if rest.getLast? == some ']' then
    match Address.parseGroups? rest.dropLast with
    | some (.v6 groups) =>
      some ("[" ++ Address.compressed (groups.toList.map UInt16.toNat) ++ "]")
    | _ => none
  else none

/-! ### Hosts -/

/-- The normal form of the host of a web address. -/
def ofWeb? (chars : List Char) : Option String :=
  match chars with
  | '[' :: rest => ofBrackets? rest
  | _ => do
    let domain ← Domain.toAscii? (← Url.decode? chars).toList
    if domain.isEmpty then none
    else if endsInNumber (parts domain) then ofNumbers? (parts domain)
    else some (String.ofList domain)

/-- The characters that no host may hold, spelled or not. -/
def isForbidden (char : Char) : Bool :=
  let forbidden :=
    ['\x00', '\t', '\n', '\r', ' ', '#', '/', ':', '<', '>', '?', '@', '[', '\\', ']', '^', '|']
  forbidden.contains char

/-- The normal form of the host of any other URL. -/
def ofOther? (chars : List Char) : Option String :=
  match chars with
  | '[' :: rest => ofBrackets? rest
  | _ =>
    if chars.any isForbidden then none
    else some (String.ofList (Url.encode Url.inOpaque chars))

end Host

end RouterPoll
