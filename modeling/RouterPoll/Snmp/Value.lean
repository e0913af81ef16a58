import RouterPoll.Poll.Metric
import RouterPoll.Text.Blank
import RouterPoll.Text.Utf8

/-!
# Objects and their values

The names of managed objects, which are lists of arcs, and the values an agent binds to them. On the wire a name is a list of bytes: the first two arcs share one, and each other arc takes seven bits of as many as it needs. A name whose arcs can not be told from its bytes any more is shown by the bytes. A value has a metric form when it says something by itself; the remaining kinds only report that there is nothing to say.
-/

namespace RouterPoll

namespace Snmp

/-- The name of an object: its arcs from the root. -/
abbrev Oid := List Nat

/-- The bytes of an arc in front of a rest, the highest first; all but the last are marked. -/
def arcBytes (value : Nat) (rest : List Nat) : List Nat :=
  if value < 128 then value :: rest else marked (value / 128) (value % 128 :: rest)
where
  /-- The bytes in front of the last one. -/
  marked (value : Nat) (rest : List Nat) : List Nat :=
    if value < 128 then (value + 128) :: rest
    else marked (value / 128) ((value % 128 + 128) :: rest)
  termination_by value
  decreasing_by omega

/-- The byte that the first two arcs share. -/
def sharedByte (first second : Nat) : Nat := (40 * first + second) % 256

def Oid.bytes : Oid → List Nat
  | first :: second :: rest => sharedByte first second :: rest.foldr arcBytes []
  | oid => oid

/-- Whether the arcs after the first two fit the words they are read into, seven bits at a time. -/
def Oid.isReadable (oid : Oid) : Bool := (oid.drop 2).all (· < Text.signedLimit64)

/-- The arcs as they are read from the bytes; a single zero is one arc. -/
def Oid.seen : Oid → Oid
  | first :: second :: rest =>
    let shared := sharedByte first second
    if shared == 0 && rest.isEmpty then [0] else shared / 40 :: shared % 40 :: rest
  | oid => oid

def Oid.text (oid : Oid) : String :=
  if oid.isReadable then String.intercalate "." (oid.seen.map Text.natText)
  else String.intercalate " " (oid.bytes.map fun byte => String.ofList (Text.hexFixed 2 byte))

/-- The order of names, arc by arc. -/
def Oid.before : Oid → Oid → Bool
  | [], [] => false
  | [], _ :: _ => true
  | _ :: _, [] => false
  | left :: lefts, right :: rights =>
    left < right || (left == right && Oid.before lefts rights)

inductive Value where
  | bool (value : Bool)
  | integer (value : Int)
  | octets (bytes : List UInt8)
  | objectId (oid : Oid)
  | ipAddress (a b c d : UInt8)
  | counter32 (value : Nat)
  | gauge32 (value : Nat)
  | timeTicks (value : Nat)
  | counter64 (value : Nat)
  | wrapped (bytes : List UInt8)
  | null
  | noSuchObject
  | noSuchInstance
  | endOfMib
  deriving DecidableEq, Inhabited

/-- The text of an octet string without the zero bytes and blanks around it. -/
def octetsText (bytes : List UInt8) : String :=
  let chars := (Text.decodeLenient bytes).toList
  String.ofList (Text.trimBlank (Text.dropEndWhile (· == Char.ofNat 0) chars))

/-- The metric form of a value, if it has one. -/
def Value.metric? : Value → Option MetricValue
  | bool value => some (.bool value)
  | integer value => some (.integer value)
  | octets bytes => some (.text (octetsText bytes))
  | objectId oid => some (.text oid.text)
  | ipAddress a b c d =>
    some (.text (String.intercalate "." ([a, b, c, d].map fun byte => Text.natText byte.toNat)))
  | counter32 value => some (.integer value)
  | gauge32 value => some (.integer value)
  | timeTicks value => some (.integer value)
  | counter64 value => some (.ofNat value)
  | wrapped _ => none
  | null => none
  | noSuchObject => none
  | noSuchInstance => none
  | endOfMib => none

/-- A value bound to the name of its object. -/
structure Binding where
  oid : Oid
  value : Value
  deriving DecidableEq, Inhabited

end Snmp

end RouterPoll
