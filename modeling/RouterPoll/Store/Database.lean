import RouterPoll.Store.Row
import RouterPoll.Store.SessionTable

/-!
# The store in a database

A store of rows in tables, which lasts as long as its file. Listings are ordered by the columns, and rows of points and records are kept newest first.
-/

namespace RouterPoll

structure Database where
  path : String
  devices : List DeviceRow
  capabilities : List CapabilityRow
  roles : List RoleRow
  points : List PointRow
  records : List RecordRow
  pppoe : List (Stamped PppoeSession)
  nat : List (Stamped NatSession)
  dhcp : List (Stamped DhcpLease)
  deriving DecidableEq

namespace Database

/-- A new database at a path. -/
def create (path : String) : Database := ⟨path, [], [], [], [], [], [], [], []⟩

def row? (database : Database) (id : Uuid) : Option DeviceRow :=
  database.devices.find? (·.id == id.text)

/-- The database with a change made to the row of a device. -/
def modify (database : Database) (id : Uuid) (change : DeviceRow → DeviceRow) :
    Except StorageError (DeviceRow × Database) :=
  match database.row? id with
  | none => .error (.deviceNotFound id)
  | some row =>
    let devices := database.devices.map fun row => if row.id == id.text then change row else row
    .ok (change row, { database with devices })

/-! ### Devices -/

def listDue (database : Database) (clock : Nat → Instant) (now : Instant) (limit : Nat) :
    Listing :=
  let due := database.devices.filter fun row => row.isDue now.toMillis
  match DeviceRow.toDevices clock ((due.mergeSort DeviceRow.notAfter).take limit) with
  | .ok devices => .listed devices
  | .error error => .refused error

def device? (database : Database) (clock : Instant) (id : Uuid) :
    Except StorageError (Option Device) :=
  match database.row? id with
  | none => .ok none
  | some row => (row.toDevice clock).map some

def capabilities? (database : Database) (id : Uuid) : Except StorageError (Option CapabilitySet) :=
  match database.capabilities.find? (·.deviceId == id.text) with
  | none => .ok none
  | some row => (Column.toValue CapabilitySet.read row.payload).map some

def rolesOf (database : Database) (id : Uuid) : Except StorageError (List Role) :=
  ((database.roles.filter (·.deviceId == id.text)).mergeSort RoleRow.notAfter).mapM RoleRow.toRole

def markPolled (database : Database) (id : Uuid) (polledAt : Instant) :
    Except StorageError Database :=
  (database.modify id fun row =>
    { row with lastPolledAt := .whole polledAt.toMillis, failures := .whole 0 }).map (·.2)

/-- The counter of a row, or a value of its own where it does not fit its width. -/
def countOf (fallback : Nat) (row : DeviceRow) : Except StorageError Nat :=
  (row.failures.readWhole "0").map (Column.toNat Text.limit32 fallback)

/-- The failure is counted before the count is read, which may turn out not to be a whole number. -/
def recordFailure (database : Database) (id : Uuid) : Except StorageError Nat × Database :=
  match database.modify id fun row =>
      { row with failures := (row.failures.plus (.whole 1)).inWholeColumn } with
  | .ok (row, database) => (countOf (Text.limit32 - 1) row, database)
  | .error error => (.error error, database)

/-- The capabilities after a device was put in. -/
def putCapabilities (id : String) (set : Option CapabilitySet) (rows : List CapabilityRow) :
    List CapabilityRow :=
  match set with
  | some set => upsert (·.deviceId) (fun _ row => row) ⟨id, set.document.compact⟩ rows
  | none => rows.filter fun row => row.deviceId != id

/-- The roles after a device was put in. Of several with one code the last counts. -/
def putRoles (id : String) (roles : List Role) (rows : List RoleRow) : List RoleRow :=
  roles.foldl
    (fun rows role =>
      upsert (fun row => (row.deviceId, row.code)) (fun _ row => row) (RoleRow.ofRole id role) rows)
    (rows.filter fun row => row.deviceId != id)

def upsertDevice (database : Database) (device : Device) : Database :=
  let id := device.id.text
  { database with
    devices := upsert (·.id) DeviceRow.replace (DeviceRow.ofDevice device) database.devices
    capabilities := putCapabilities id device.capabilities database.capabilities
    roles := putRoles id device.roles database.roles }

/-! ### What polls bring back -/

def writeMetrics (database : Database) (point : MetricsPoint) : Database :=
  { database with points := PointRow.ofPoint point :: database.points }

def writeHistory (database : Database) (record : HistoryRecord) : Database :=
  { database with records := RecordRow.ofRecord record :: database.records }

def upsertSessions (database : Database) (now : Instant) (tenantId deviceId : Uuid)
    (batch : SessionBatch) : Database :=
  let tenant := tenantId.text
  let device := deviceId.text
  let stamp := now.toMillis
  match batch with
  | .pppoe sessions =>
    { database with
      pppoe := SessionTable.upsertBatch .pppoe stamp tenant device
        (sessions.map PppoeSession.narrowed) database.pppoe }
  | .nat sessions =>
    { database with
      nat := SessionTable.upsertBatch .nat stamp tenant device sessions database.nat }
  | .dhcp leases =>
    { database with
      dhcp := SessionTable.upsertBatch .dhcp stamp tenant device leases database.dhcp }

/-- The records of a device, by the time the attempts began and newest first. -/
def history (database : Database) (clock : Nat → Instant) (id : Uuid) (limit : Nat) :
    Except StorageError (List HistoryRecord) :=
  let rows := database.records.filter (·.deviceId == id.text)
  RecordRow.toRecords clock
    ((rows.mergeSort fun left right => right.startedAt ≤ left.startedAt).take limit)

def health (database : Database) : StoreHealth where
  healthy := true
  message := "SQLite backend operational"
  metadata := [
    ("path", database.path),
    ("devices", Text.natText database.devices.length)]

/-! ### Looking inside -/

/-- A counter that does not fit its width is shown as zero. -/
def failures? (database : Database) (id : Uuid) : Except StorageError (Option Nat) :=
  match database.row? id with
  | none => .ok none
  | some row => (countOf 0 row).map some

/-- The row with the latest time, and of several the one that was written last. -/
def latestRow? : List PointRow → Option PointRow
  | [] => none
  | row :: rest =>
    match latestRow? rest with
    | some other => if other.timestamp ≤ row.timestamp then some row else some other
    | none => some row

def latestMetrics? (database : Database) (clock : Instant) (id : Uuid) :
    Except StorageError (Option MetricsPoint) :=
  match latestRow? (database.points.filter (·.deviceId == id.text)) with
  | none => .ok none
  | some row => (row.toPoint clock id).map some

/-- How many sessions of a kind are kept for a device. -/
def sessionCount (database : Database) (id : Uuid) (kind : String) : Except StorageError Nat :=
  match SessionKind.ofText? kind with
  | some .pppoe => .ok (SessionTable.ofDevice id.text database.pppoe).length
  | some .nat => .ok (SessionTable.ofDevice id.text database.nat).length
  | some .dhcp => .ok (SessionTable.ofDevice id.text database.dhcp).length
  | none => .error (.queryFailed ("unknown session kind " ++ kind))

end Database

instance : Store Database where
  readDue := Database.listDue
  readDevice? := Database.device?
  capabilities? := Database.capabilities?
  roles := Database.rolesOf
  markPolled := Database.markPolled
  recordFailure := Database.recordFailure
  upsertDevice database device := .ok (database.upsertDevice device)
  writeMetrics database point := .ok (database.writeMetrics point)
  writeHistory database record := .ok (database.writeHistory record)
  upsertSessions database now tenantId deviceId batch :=
    .ok (batch.size, database.upsertSessions now tenantId deviceId batch)
  readHistory := Database.history
  health database := .ok database.health

end RouterPoll
