import RouterPoll.Decimal.Reader
import RouterPoll.Json.Value
import RouterPoll.Poll.Session
import RouterPoll.RouterOs.Uptime

/-!
# Entries

The rows of the tables a router returns. Most values are texts, whatever they mean, so numbers and flags are taken from texts as well. A row without the fields that tell it from others is no entry, and whatever else a row lacks has a value of its own.
-/

namespace RouterPoll

namespace RouterOs

/-! ### Values -/

def natOf? : Json → Option Nat
  | .number (.whole (.ofNat value)) => some value
  | .string text => Text.unsigned? Text.limit64 (Text.trimBlank text.toList)
  | _ => none

def floatOf? : Json → Option Float
  | .number (.whole value) => some (Decimal.ofInt value)
  | .number (.double value) => some value
  | .string text => Decimal.number? (Text.trimBlank text.toList)
  | _ => none

def flagOf? : Json → Option Bool
  | .bool value => some value
  | .string "true" => some true
  | .string "yes" => some true
  | .string "false" => some false
  | .string "no" => some false
  | _ => none

/-! ### Fields -/

/-- The text in a field; an empty one counts as missing. -/
def text? (key : String) (row : Json) : Option String :=
  ((row.field? key).bind Json.text?).filter (· != "")

def flag (key : String) (row : Json) : Bool := ((row.field? key).bind flagOf?).getD false

def counter (key : String) (row : Json) : Nat := ((row.field? key).bind natOf?).getD 0

/-! ### Rows -/

def interface? (row : Json) : Option InterfaceStatus := do
  let name ← text? "name" row
  return {
    name
    index := none
    operUp := flag "running" row
    adminUp := !flag "disabled" row
    rxBytes := counter "rx-byte" row
    txBytes := counter "tx-byte" row
    rxPackets := counter "rx-packet" row
    txPackets := counter "tx-packet" row }

def pppoe? (row : Json) : Option PppoeSession := do
  let sessionId ← text? ".id" row
  return {
    sessionId
    username := (text? "name" row).getD ""
    callerId := text? "caller-id" row
    address := text? "address" row
    uptimeSeconds := (text? "uptime" row).bind uptime? }

def nat? (row : Json) : Option NatSession := do
  let srcAddress ← text? "src-address" row
  let dstAddress ← text? "dst-address" row
  return {
    protocol := (text? "protocol" row).getD "unknown"
    srcAddress
    dstAddress
    replySrcAddress := text? "reply-src-address" row
    state := text? "tcp-state" row }

def lease? (row : Json) : Option DhcpLease := do
  let macAddress ← text? "mac-address" row
  let ipAddress ← text? "address" row
  return {
    macAddress := macAddress.map Char.toUpper
    ipAddress
    hostname := text? "host-name" row
    active := text? "status" row == some "bound" }

end RouterOs

end RouterPoll
