import RouterPoll.Device.Document
import RouterPoll.Poll.Result

/-!
# Results as documents

How metrics, tables and whole results are read from documents, and the documents a metrics point is stored as. A metric carries no tag: its kind is seen from the shape of its value, and a whole number too large for 64 bits with a sign is taken as a double. A double that is not finite has no shape of its own and becomes `null`.
-/

namespace RouterPoll

open Decode (Reader Fields Source readBool readText readNat32 readNat64)
open Decode.Fields (required defaulted optional nullable)
open Json (Node Key)

/-! ### Reading -/

def MetricValue.ofNumber : Json.Number → MetricValue
  | .whole value =>
    if value ≤ Text.maxSigned64 then .integer value else .float (Decimal.ofInt value)
  | .double value => .float value

def MetricValue.ofDocument? : Json → Option MetricValue
  | .bool value => some (.bool value)
  | .number value => some (.ofNumber value)
  | .string value => some (.text value)
  | _ => none

/-- A metric; the whole of its value is taken in before its kind is looked for. -/
def MetricValue.read : Reader MetricValue := fun _ node =>
  match node.value? Json.depthLimit with
  | .error flaw => .error (.flaw flaw)
  | .ok value =>
    match MetricValue.ofDocument? value with
    | some value => .ok value
    | none => .error (.noVariant "MetricValue")

def Metrics.readEntries (source : Source) :
    Metrics → List (Key × Node) → Except Decode.Error Metrics
  | metrics, [] => .ok metrics
  | _, (.error flaw, _) :: _ => .error (.flaw flaw)
  | metrics, (.ok name, node) :: rest => do
    let value ← MetricValue.read source node
    Metrics.readEntries source (metrics.set name value) rest

def Metrics.read : Reader Metrics
  | source, .object entries => Metrics.readEntries source .empty entries
  | _, node => .error (Decode.mismatch "a map" node)

def InterfaceStatus.read : Reader InterfaceStatus :=
  Fields.reader "InterfaceStatus" <|
    InterfaceStatus.mk
      <$> required "name" readText
      <*> optional "index" readNat32
      <*> required "oper_up" readBool
      <*> defaulted "admin_up" readBool false
      <*> defaulted "rx_bytes" readNat64 0
      <*> defaulted "tx_bytes" readNat64 0
      <*> defaulted "rx_packets" readNat64 0
      <*> defaulted "tx_packets" readNat64 0

def PppoeSession.read : Reader PppoeSession :=
  Fields.reader "PppoeSession" <|
    PppoeSession.mk
      <$> required "session_id" readText
      <*> required "username" readText
      <*> optional "caller_id" readText
      <*> optional "address" readText
      <*> optional "uptime_seconds" readNat64

def NatSession.read : Reader NatSession :=
  Fields.reader "NatSession" <|
    NatSession.mk
      <$> required "protocol" readText
      <*> required "src_address" readText
      <*> required "dst_address" readText
      <*> optional "reply_src_address" readText
      <*> optional "state" readText

def DhcpLease.read : Reader DhcpLease :=
  Fields.reader "DhcpLease" <|
    DhcpLease.mk
      <$> required "mac_address" readText
      <*> required "ip_address" readText
      <*> optional "hostname" readText
      <*> required "active" readBool

def PollResult.read : Reader PollResult :=
  Fields.reader "PollResult" <|
    PollResult.mk
      <$> required "device_id" Uuid.read
      <*> required "tenant_id" Uuid.read
      <*> required "adapter" readText
      <*> required "success" readBool
      <*> required "metrics" Metrics.read
      <*> defaulted "interfaces" (Decode.listOf InterfaceStatus.read) []
      <*> defaulted "pppoe_sessions" (Decode.listOf PppoeSession.read) []
      <*> defaulted "nat_sessions" (Decode.listOf NatSession.read) []
      <*> defaulted "dhcp_leases" (Decode.listOf DhcpLease.read) []
      <*> required "started_at" Instant.read
      <*> required "completed_at" Instant.read
      <*> required "response_time_ms" readNat64
      <*> optional "error" readText
      <*> defaulted "cancelled" readBool false

/-! ### Writing -/

def MetricValue.document : MetricValue → Json
  | .bool value => .bool value
  | .integer value => Json.whole value
  | .float value => if Decimal.isFinite value then Json.double value else .null
  | .text value => .string value

def Metrics.document (metrics : Metrics) : Json :=
  .object (metrics.entries.map fun entry => (entry.1, entry.2.document))

def InterfaceStatus.document (status : InterfaceStatus) : Json := .object [
  ("name", .string status.name),
  ("index", Json.orNull Json.nat status.index),
  ("oper_up", .bool status.operUp),
  ("admin_up", .bool status.adminUp),
  ("rx_bytes", Json.nat status.rxBytes),
  ("tx_bytes", Json.nat status.txBytes),
  ("rx_packets", Json.nat status.rxPackets),
  ("tx_packets", Json.nat status.txPackets)]

def PppoeSession.document (session : PppoeSession) : Json := .object [
  ("session_id", .string session.sessionId),
  ("username", .string session.username),
  ("caller_id", Json.orNull .string session.callerId),
  ("address", Json.orNull .string session.address),
  ("uptime_seconds", Json.orNull Json.nat session.uptimeSeconds)]

def NatSession.document (session : NatSession) : Json := .object [
  ("protocol", .string session.protocol),
  ("src_address", .string session.srcAddress),
  ("dst_address", .string session.dstAddress),
  ("reply_src_address", Json.orNull .string session.replySrcAddress),
  ("state", Json.orNull .string session.state)]

def DhcpLease.document (lease : DhcpLease) : Json := .object [
  ("mac_address", .string lease.macAddress),
  ("ip_address", .string lease.ipAddress),
  ("hostname", Json.orNull .string lease.hostname),
  ("active", .bool lease.active)]

def SessionEntry.document : SessionEntry → Json
  | pppoe session => session.document
  | nat session => session.document
  | dhcp lease => lease.document

end RouterPoll
