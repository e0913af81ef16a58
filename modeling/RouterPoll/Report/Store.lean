import RouterPoll.Report.Poll
import RouterPoll.Store.Backend

/-!
# Reports of stores

Documents that show exactly what a store holds.
-/

namespace RouterPoll

namespace Report

/-- A history record, with or without its times. -/
def history (isTimed : Bool) (record : HistoryRecord) : Json := .object <|
  [("tenant_id", .string record.tenantId.text), ("device_id", .string record.deviceId.text)]
  ++ (if isTimed then [
    ("poll_started_at", record.startedAt.document),
    ("poll_completed_at", record.completedAt.document),
    ("response_time_ms", Json.nat record.responseTimeMs)] else [])
  ++ [("adapter_used", .string record.adapter), ("success", .bool record.success),
    ("error_message", Json.orNull .string record.error),
    ("metrics_collected", Json.nat record.metricsCollected)]

def point (point : MetricsPoint) : Json := .object [
  ("tenant_id", .string point.tenantId.text),
  ("device_id", .string point.deviceId.text),
  ("timestamp", point.timestamp.document),
  ("adapter", .string point.adapter),
  ("cpu_percent", Json.orNull float point.cpuPercent),
  ("memory_percent", Json.orNull float point.memoryPercent),
  ("uptime_seconds", Json.orNull Json.whole point.uptimeSeconds),
  ("temperature_celsius", Json.orNull float point.temperatureCelsius),
  ("metrics", metrics point.metrics),
  ("interfaces", list InterfaceStatus.document point.interfaces)]

/-- A device as it is listed: its name, its last poll, whether it has capabilities, and how many roles. -/
def listed (device : Device) : Json := .array [
  .string device.name,
  Json.orNull Instant.document device.lastPolledAt,
  .bool device.capabilities.isSome,
  Json.nat device.roles.length]

def health (health : StoreHealth) : Json := .object [
  ("healthy", .bool health.healthy),
  ("message", .string health.message),
  ("metadata", .object (health.metadata.map fun (name, value) => (name, .string value)))]

/-! ### Sessions -/

/-- Documents in the order of their texts. -/
def inOrder (values : List Json) : List Json :=
  ((values.map fun value => (value.sorted.compact, value.sorted)).mergeSort
    fun left right => decide (left.1 ≤ right.1)).map (·.2)

/-- A row of a table of sessions, with what the table has beside the session. -/
def stampedRow (encode : α → List (String × Json)) (row : Stamped α) : Json :=
  .object (("tenant_id", .string row.tenantId) :: encode row.session)

def fieldsOf : Json → List (String × Json)
  | .object fields => fields
  | _ => []

/-- The rows that a database keeps of a kind of session; none where the kind is unknown. -/
def databaseSessions? (id : Uuid) (kind : String) (database : Database) : Option (List Json) :=
  (SessionKind.ofText? kind).map fun
    | .pppoe => (SessionTable.ofDevice id.text database.pppoe).map
        (stampedRow fun session => fieldsOf session.document)
    | .nat => (SessionTable.ofDevice id.text database.nat).map
        (stampedRow fun session =>
          ("natural_key", .string session.naturalKey) :: fieldsOf session.document)
    | .dhcp => (SessionTable.ofDevice id.text database.dhcp).map
        (stampedRow fun lease => fieldsOf lease.document)

/-- The sessions of a kind that are kept for a device, in the order of their texts. -/
def sessions? (id : Uuid) (kind : String) : Backend → Option Json
  | .memory store =>
    some (.array (inOrder ((store.sessionsOf id kind).map SessionEntry.document)))
  | .database database => (databaseSessions? id kind database).map fun rows =>
    .array (inOrder rows)

/-! ### Failures -/

def storageErrorKind : StorageError → String
  | .connectionFailed _ => "ConnectionFailed"
  | .queryFailed _ => "QueryFailed"
  | .migrationFailed _ => "MigrationFailed"
  | .invalidConfig _ => "InvalidConfig"
  | .serialization _ => "SerializationError"
  | .deviceNotFound _ => "DeviceNotFound"
  | .inputOutput _ => "IoError"
  | .unhealthy _ => "UnhealthyBackend"

def storageError (error : StorageError) : Json := failure (storageErrorKind error) error.message

end Report

end RouterPoll
