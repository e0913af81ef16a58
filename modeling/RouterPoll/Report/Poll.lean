import RouterPoll.Poll.Document
import RouterPoll.Poll.Error

/-!
# Reports of polls

Documents that show exactly what a poll brought back. A double is shown by its bits, so that no reader of numbers can change it. Long tables can be shown by their length and their ends.
-/

namespace RouterPoll

namespace Report

def list (encode : α → Json) (values : List α) : Json := .array (values.map encode)

def float (value : Float) : Json :=
  .object [("f64", .string (if value.isNaN then "nan"
    else String.ofList (Text.hexFixed 16 value.toBits.toNat)))]

def metric : MetricValue → Json
  | .bool value => .bool value
  | .integer value => Json.whole value
  | .float value => float value
  | .text value => .string value

def metrics (bag : Metrics) : Json :=
  .object (bag.entries.map fun entry => (entry.1, metric entry.2))

/-- A metric together with what it is when it is asked for as another kind. -/
def metricForms (value : MetricValue) : Json := .object [
  ("value", metric value),
  ("as_f64", Json.orNull float value.asFloat?),
  ("as_i64", Json.orNull Json.whole value.asInteger?),
  ("as_str", Json.orNull .string value.asText?),
  ("display", .string value.shown)]

/-- A list, or its length and its ends. -/
def rows (isSummary : Bool) (encode : α → Json) (values : List α) : Json :=
  if isSummary then .object [
    ("count", Json.nat values.length),
    ("first", Json.orNull encode values.head?),
    ("last", Json.orNull encode values.getLast?)]
  else list encode values

/-- A result without its times. -/
def result (isSummary : Bool) (result : PollResult) : Json := .object [
  ("device_id", .string result.deviceId.text),
  ("tenant_id", .string result.tenantId.text),
  ("adapter", .string result.adapter),
  ("success", .bool result.success),
  ("metrics", metrics result.metrics),
  ("interfaces", rows isSummary InterfaceStatus.document result.interfaces),
  ("pppoe_sessions", rows isSummary PppoeSession.document result.pppoeSessions),
  ("nat_sessions", rows isSummary NatSession.document result.natSessions),
  ("dhcp_leases", rows isSummary DhcpLease.document result.dhcpLeases),
  ("error", Json.orNull .string result.error),
  ("cancelled", .bool result.cancelled)]

/-- The kind, size and emptiness of the batches of a result. -/
def batches (result : PollResult) : Json :=
  list (fun batch => .array [.string batch.kind.text, Json.nat batch.size, .bool batch.isEmpty])
    result.sessionBatches

/-! ### Failures -/

def failure (kind message : String) : Json :=
  .object [("error", .string kind), ("message", .string message)]

def pollErrorKind : PollError → String
  | .noSuitableAdapter _ => "NoSuitableAdapter"
  | .unsupportedVersion _ _ => "UnsupportedVersion"
  | .notConfigured _ _ => "NotConfigured"
  | .connect _ _ => "Connect"
  | .timeout _ _ => "Timeout"
  | .auth _ => "Auth"
  | .protocol _ => "Protocol"
  | .allAdaptersFailed _ _ => "AllAdaptersFailed"
  | .cancelled => "Cancelled"

def pollError (error : PollError) : Json := failure (pollErrorKind error) error.message

/-- What a poll came to. -/
def pollAnswer : Except PollError PollResult → Json
  | .ok outcome => result false outcome
  | .error error => pollError error

def sessionFailure (isSummary : Bool) (failure : SessionFailure) : Json :=
  .object [("session_failure", .object [
    ("error", .string (pollErrorKind failure.error)),
    ("message", .string failure.error.message),
    ("result", result isSummary failure.result)])]

end Report

end RouterPoll
