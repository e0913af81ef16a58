import RouterPoll.Json.Parser
import RouterPoll.Poll.Document
import RouterPoll.Store.Cell
import RouterPoll.Store.Contract

/-!
# Rows

How devices, roles, points, records and sessions are written into rows of plain columns, and read back. A column holds a text, a whole number of 64 bits with a sign, or a double; ids, addresses and states are texts, times are milliseconds rounded down, and structured values are documents. Reading is the weaker side: a column may hold what no writer puts there, and then the row is refused. The columns for whole numbers that can be changed from outside are cells, because they may even hold texts.
-/

namespace RouterPoll

/-! ### Columns -/

namespace Column

/-- A number that has no sign; the column ends at `2 ^ 63 - 1`. -/
def ofNat (value : Nat) : Int := min value Text.maxSigned64

/-- A number below a limit, or else a value of its own. -/
def toNat (limit fallback : Nat) (value : Int) : Nat :=
  if 0 ≤ value ∧ value < limit then value.toNat else fallback

/-- A yes as one, a no as zero. -/
def ofFlag (value : Bool) : Int := if value then 1 else 0

/-- A double as it comes back: a zero loses its sign, and what is no number is nothing. -/
def ofFloat (value : Option Float) : Option Float :=
  value.bind fun value =>
    if value.isNaN then none else if value == 0.0 then some 0.0 else some value

/-- A time; a column beyond all instants stands for what the clock shows when it is read. -/
def toInstant (clock : Instant) (millis : Int) : Instant := (Instant.ofMillis? millis).getD clock

def toUuid (text : String) : Except StorageError Uuid :=
  match Uuid.parse? text with
  | some id => .ok id
  | none => .error (.serialization ("invalid uuid " ++ text))

def toAddress (text : String) : Except StorageError Address :=
  match Address.parse? text with
  | some address => .ok address
  | none =>
    .error (.serialization ("invalid address " ++ text ++ ": " ++ Decode.Error.badAddress.message))

def toStatus (text : String) : Except StorageError DeviceStatus :=
  match DeviceStatus.ofText? text with
  | some status => .ok status
  | none => .error (.serialization (DeviceStatus.refusal text))

/-- A value that is kept as a document. -/
def toValue (read : Decode.Reader α) (text : String) : Except StorageError α :=
  (Decode.readDocument read (Json.Document.ofText text)).mapError fun error =>
    .serialization error.message

end Column

/-! ### Devices -/

structure DeviceRow where
  id : String
  tenantId : String
  name : String
  managementIp : String
  vendor : Option String
  status : String
  pollingEnabled : Cell
  pollingInterval : Cell
  lastPolledAt : Cell
  failures : Cell
  deriving DecidableEq, Repr

namespace DeviceRow

def ofDevice (device : Device) : DeviceRow where
  id := device.id.text
  tenantId := device.tenantId.text
  name := device.name
  managementIp := device.managementIp.text
  vendor := device.vendor
  status := device.status.text
  pollingEnabled := .whole (Column.ofFlag device.pollingEnabled)
  pollingInterval := .whole device.pollingInterval
  lastPolledAt := .ofWhole? (device.lastPolledAt.map Instant.toMillis)
  failures := .whole 0

/-- The kinds of the numbers are looked at before the texts are read, except for the flag, which comes last. -/
def toDevice (clock : Instant) (row : DeviceRow) : Except StorageError Device := do
  let interval ← row.pollingInterval.readWhole (Text.quoted "polling_interval_secs")
  let lastPolledAt ← row.lastPolledAt.readWhole? (Text.quoted "last_polled_at")
  let id ← Column.toUuid row.id
  let tenantId ← Column.toUuid row.tenantId
  let managementIp ← Column.toAddress row.managementIp
  let status ← Column.toStatus row.status
  let pollingEnabled ← row.pollingEnabled.readFlag (Text.quoted "polling_enabled")
  return {
    id, tenantId
    name := row.name
    managementIp
    vendor := row.vendor
    status, pollingEnabled
    pollingInterval := Column.toNat Text.limit32 (Text.limit32 - 1) interval
    lastPolledAt := lastPolledAt.map (Column.toInstant clock)
    capabilities := none
    roles := [] }

/-- Reads rows one after the other, each with what the clock shows by then. -/
def toDevices (clock : Nat → Instant) (rows : List DeviceRow) : Except StorageError (List Device) :=
  rows.zipIdx.mapM fun (row, place) => row.toDevice (clock place)

/-- A device that takes the place of an older one: it keeps the failures, and the time of the last poll unless it brings its own. -/
def replace (old new : DeviceRow) : DeviceRow :=
  { new with lastPolledAt := new.lastPolledAt.or old.lastPolledAt, failures := old.failures }

/-- Whether the device has to be polled, in whole milliseconds; only a one counts as enabled. -/
def isDue (row : DeviceRow) (nowMillis : Int) : Bool :=
  row.pollingEnabled.order (.whole (Column.ofFlag true)) == .eq
    && row.status == DeviceStatus.active.text
    && match row.lastPolledAt with
      | .null => true
      | last =>
        let next := last.plus (row.pollingInterval.times (.whole 1000))
        next != .null && next.order (.whole nowMillis) == .lt

/-- Whether one device comes before another or with it: first those never polled, then the ones polled longest ago, and by their ids where that is no difference. -/
def notAfter (left right : DeviceRow) : Bool :=
  match left.lastPolledAt.order right.lastPolledAt with
  | .lt => true
  | .eq => left.id ≤ right.id
  | .gt => false

end DeviceRow

/-- The capabilities of a device as a document. -/
structure CapabilityRow where
  deviceId : String
  payload : String
  deriving DecidableEq, Repr

structure RoleRow where
  deviceId : String
  code : String
  name : Option String
  priority : Cell
  isPrimary : Bool
  deriving DecidableEq, Repr

namespace RoleRow

def ofRole (deviceId : String) (role : Role) : RoleRow :=
  ⟨deviceId, role.code, role.name, .whole role.priority, role.isPrimary⟩

def maxPriority : Int := Text.signedLimit32 - 1

/-- A priority that does not fit its width is the largest one. -/
def toRole (row : RoleRow) : Except StorageError Role := do
  let priority ← row.priority.readWhole (Text.quoted "priority")
  return {
    code := row.code
    name := row.name
    priority :=
      if -Text.signedLimit32 ≤ priority ∧ priority ≤ maxPriority then priority else maxPriority
    isPrimary := row.isPrimary }

def notAfter (left right : RoleRow) : Bool :=
  match left.priority.order right.priority with
  | .lt => true
  | .eq => left.code ≤ right.code
  | .gt => false

end RoleRow

/-! ### Points and records -/

structure PointRow where
  tenantId : String
  deviceId : String
  timestamp : Int
  adapter : String
  cpuPercent : Option Float
  memoryPercent : Option Float
  uptimeSeconds : Option Int
  temperatureCelsius : Option Float
  metrics : String
  interfaces : String
  deriving DecidableEq

namespace PointRow

def ofPoint (point : MetricsPoint) : PointRow where
  tenantId := point.tenantId.text
  deviceId := point.deviceId.text
  timestamp := point.timestamp.toMillis
  adapter := point.adapter
  cpuPercent := Column.ofFloat point.cpuPercent
  memoryPercent := Column.ofFloat point.memoryPercent
  uptimeSeconds := point.uptimeSeconds
  temperatureCelsius := Column.ofFloat point.temperatureCelsius
  metrics := point.metrics.document.compact
  interfaces := (Json.array (point.interfaces.map InterfaceStatus.document)).compact

def toPoint (clock : Instant) (deviceId : Uuid) (row : PointRow) : Except StorageError MetricsPoint := do
  let tenantId ← Column.toUuid row.tenantId
  let metrics ← Column.toValue Metrics.read row.metrics
  let interfaces ← Column.toValue (Decode.listOf InterfaceStatus.read) row.interfaces
  return {
    tenantId, deviceId
    timestamp := Column.toInstant clock row.timestamp
    adapter := row.adapter
    cpuPercent := row.cpuPercent
    memoryPercent := row.memoryPercent
    uptimeSeconds := row.uptimeSeconds
    temperatureCelsius := row.temperatureCelsius
    metrics, interfaces }

end PointRow

structure RecordRow where
  tenantId : String
  deviceId : String
  startedAt : Int
  completedAt : Int
  adapter : String
  success : Bool
  error : Option String
  metricsCollected : Int
  responseTimeMs : Int
  deriving DecidableEq, Repr

namespace RecordRow

def ofRecord (record : HistoryRecord) : RecordRow where
  tenantId := record.tenantId.text
  deviceId := record.deviceId.text
  startedAt := record.startedAt.toMillis
  completedAt := record.completedAt.toMillis
  adapter := record.adapter
  success := record.success
  error := record.error
  metricsCollected := record.metricsCollected
  responseTimeMs := Column.ofNat record.responseTimeMs

/-- The clock may be looked at for each of the two times. -/
def toRecord (atStart atEnd : Instant) (row : RecordRow) : Except StorageError HistoryRecord := do
  let tenantId ← Column.toUuid row.tenantId
  let deviceId ← Column.toUuid row.deviceId
  return {
    tenantId, deviceId
    startedAt := Column.toInstant atStart row.startedAt
    completedAt := Column.toInstant atEnd row.completedAt
    adapter := row.adapter
    success := row.success
    error := row.error
    metricsCollected := Column.toNat Text.limit32 0 row.metricsCollected
    responseTimeMs := Column.toNat Text.limit64 0 row.responseTimeMs }

/-- Reads rows one after the other, each of their times with what the clock shows by then. -/
def toRecords (clock : Nat → Instant) (rows : List RecordRow) :
    Except StorageError (List HistoryRecord) :=
  rows.zipIdx.mapM fun (row, place) => row.toRecord (clock (2 * place)) (clock (2 * place + 1))

end RecordRow

end RouterPoll
