import RouterPoll.Poll.Document
import RouterPoll.Poll.Error

/-!
# Briefs

The parts of a trial are described by briefs: documents whose fields fall back to a default where they are missing or of another shape. A brief is refused when it means nothing, or when a whole structure in it can not be read.
-/

namespace RouterPoll

/-- Why a brief is refused. -/
inductive Refusal where
  | meaningless
  | undecodable (error : Decode.Error)

abbrev Described := Except Refusal

namespace Brief

def orMeaningless : Option α → Described α
  | some value => .ok value
  | none => .error .meaningless

/-! ### Fields -/

/-- A field, or `null` where there is none. -/
def part (spec : Json) (key : String) : Json := (spec.field? key).getD .null

def nat? : Json → Option Nat
  | .number (.whole (.ofNat value)) => some value
  | _ => none

def nat (spec : Json) (key : String) (fallback : Nat) : Nat :=
  ((spec.field? key).bind nat?).getD fallback

def text? (spec : Json) (key : String) : Option String := (spec.field? key).bind Json.text?

def text (spec : Json) (key : String) : String := (text? spec key).getD ""

def flag (spec : Json) (key : String) (fallback : Bool) : Bool :=
  match spec.field? key with
  | some (.bool value) => value
  | _ => fallback

def items (spec : Json) (key : String) : List Json :=
  ((spec.field? key).bind Json.items?).getD []

def texts (spec : Json) (key : String) : List String := (items spec key).filterMap Json.text?

def fields (spec : Json) (key : String) : List (String × Json) :=
  match spec.field? key with
  | some (.object fields) => fields
  | _ => []

/-- Whether a field is there and not `null`. -/
def isGiven (spec : Json) (key : String) : Bool :=
  match spec.field? key with
  | none => false
  | some .null => false
  | some _ => true

/-! ### Structures -/

def decode (read : Decode.Reader α) (value : Json) : Described α :=
  (read .value (Json.Node.ofValue value)).mapError .undecodable

def decodeAt (read : Decode.Reader α) (spec : Json) (key : String) : Described α :=
  decode read (part spec key)

/-- A structure that may be missing or `null`. -/
def decodeOr (read : Decode.Reader α) (fallback : α) (spec : Json) (key : String) : Described α :=
  if isGiven spec key then decodeAt read spec key else .ok fallback

/-! ### Values -/

/-- What stands for a number in a pattern. -/
def mark : String := "\x7bi\x7d"

def numbered (pattern : String) (number : Nat) : String :=
  pattern.replace mark (Text.natText number)

def bytesOfHex? : List Char → Option (List UInt8)
  | [] => some []
  | [_] => none
  | high :: low :: rest => do
    let value ← Text.hexDigits? [high, low]
    let bytes ← bytesOfHex? rest
    return UInt8.ofNat value :: bytes

def bytes? (value : Json) : Option (List UInt8) :=
  value.text?.bind fun text => bytesOfHex? text.toList

/-- A double by its bits or as a number. -/
def float? : Json → Option Float
  | .string text =>
    (Text.hexDigits? text.toList).map fun bits => Float.ofBits (UInt64.ofNat bits)
  | .number (.whole value) => some (Decimal.ofInt value)
  | .number (.double value) => some value
  | _ => none

/-- A metric in the form that names the kind of number or text it is made from. -/
def metric? : Json → Option MetricValue
  | .object [(kind, value)] =>
    match kind, value with
    | "i64", .number (.whole value) =>
      if -Text.signedLimit64 ≤ value ∧ value < Text.signedLimit64 then some (.integer value)
      else none
    | "u64", value => (nat? value).map .ofNat
    | "usize", value => (nat? value).map .ofNat
    | "u32", value => ((nat? value).filter (· < Text.limit32)).map .ofNat
    | "f64", value => (float? value).map .float
    | "text", .string text => some (.text text)
    | "string", .string text => some (.text text)
    | "bool", .bool value => some (.bool value)
    | _, _ => none
  | _ => none

/-- A metric in that form, or as its mere value. -/
def metric (value : Json) : Described MetricValue :=
  orMeaningless ((metric? value).or (MetricValue.ofDocument? value))

/-- The cause of a failure by its kind. -/
def pollError (spec : Json) : Described PollError :=
  match text spec "kind" with
  | "NoSuitableAdapter" => .ok (.noSuitableAdapter (text spec "device"))
  | "UnsupportedVersion" => .ok (.unsupportedVersion (text spec "protocol") (text spec "version"))
  | "NotConfigured" => .ok (.notConfigured (text spec "adapter") (text spec "reason"))
  | "Connect" => .ok (.connect (text spec "target") (text spec "reason"))
  | "Timeout" => .ok (.timeout (text spec "operation") (nat spec "timeout_secs" 0))
  | "Auth" => .ok (.auth (text spec "target"))
  | "Protocol" => .ok (.protocol (text spec "text"))
  | "AllAdaptersFailed" =>
    .ok (.allAdaptersFailed (nat spec "attempted" 0) (text spec "last_error"))
  | "Cancelled" => .ok .cancelled
  | _ => .error .meaningless

end Brief

end RouterPoll
