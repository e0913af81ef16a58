import RouterPoll.Store.Contract
import RouterPoll.Store.Table

/-!
# The store in memory

A store that lasts as long as the program. For each device it keeps the newest metrics points and history records up to a limit, and the sessions of the last batch of each kind.
-/

namespace RouterPoll

/-- A device as it is kept: bare, with what belongs to it beside it. -/
structure MemoryEntry where
  device : Device
  capabilities : Option CapabilitySet
  roles : List Role
  failures : Nat
  deriving DecidableEq

/-- Points and records are kept newest first. -/
structure MemoryStore where
  devices : Table Uuid MemoryEntry
  metrics : Table Uuid (List MetricsPoint)
  history : Table Uuid (List HistoryRecord)
  sessions : Table (Uuid × SessionKind) (Table String SessionEntry)
  deriving DecidableEq

/-- Whether one device comes before another or with it: first those never polled, then the ones polled longest ago, and by their ids where that is no difference. -/
def Device.notAfter (left right : Device) : Bool :=
  match left.lastPolledAt, right.lastPolledAt with
  | none, some _ => true
  | some _, none => false
  | none, none => left.id.notAfter right.id
  | some first, some second =>
    if first == second then left.id.notAfter right.id else first.before second

namespace MemoryStore

def maxPoints : Nat := 1000

def maxRecords : Nat := 10000

def empty : MemoryStore := ⟨.empty, .empty, .empty, .empty⟩

/-- A list, newest first, with one more item, and without the oldest one if it was full. -/
def pushNewest (limit : Nat) (item : α) (items : List α) : List α :=
  if items.length < limit then item :: items else item :: items.dropLast

def entry (store : MemoryStore) (id : Uuid) : Except StorageError MemoryEntry :=
  match store.devices.get? id with
  | some entry => .ok entry
  | none => .error (.deviceNotFound id)

/-- The devices of a list that are due, unless the question has no answer for one of them. -/
def dueAmong (now : Instant) : List Device → Option (List Device)
  | [] => some []
  | device :: rest => do
    let isDue ← device.isDue now
    let others ← dueAmong now rest
    return if isDue then device :: others else others

def listDue (store : MemoryStore) (now : Instant) (limit : Nat) : Listing :=
  match dueAmong now (store.devices.values.map (·.device)) with
  | some devices => .listed ((devices.mergeSort Device.notAfter).take limit)
  | none => .overflowed

/-- The store with the entry of a device changed. -/
def modify (store : MemoryStore) (id : Uuid) (change : MemoryEntry → MemoryEntry) :
    Except StorageError (MemoryEntry × MemoryStore) :=
  (store.entry id).map fun entry =>
    (change entry, { store with devices := store.devices.put id (change entry) })

def markPolled (store : MemoryStore) (id : Uuid) (polledAt : Instant) :
    Except StorageError MemoryStore :=
  (store.modify id fun entry =>
    { entry with
      device := { entry.device with lastPolledAt := some polledAt }
      failures := 0 }).map (·.2)

/-- The counter has 32 bits and stays at the largest number. -/
def recordFailure (store : MemoryStore) (id : Uuid) : Except StorageError Nat × MemoryStore :=
  match store.modify id fun entry =>
      { entry with failures := min (entry.failures + 1) (Text.limit32 - 1) } with
  | .ok (entry, store) => (.ok entry.failures, store)
  | .error error => (.error error, store)

def upsertDevice (store : MemoryStore) (device : Device) : MemoryStore :=
  let old := store.devices.get? device.id
  let entry : MemoryEntry := {
    device := { device.bare with
      lastPolledAt := device.lastPolledAt.or (old.bind (·.device.lastPolledAt)) }
    capabilities := device.capabilities
    roles := device.roles
    failures := (old.map (·.failures)).getD 0 }
  { store with devices := store.devices.put device.id entry }

def writeMetrics (store : MemoryStore) (point : MetricsPoint) : MemoryStore :=
  let points := (store.metrics.get? point.deviceId).getD []
  { store with metrics := store.metrics.put point.deviceId (pushNewest maxPoints point points) }

def writeHistory (store : MemoryStore) (record : HistoryRecord) : MemoryStore :=
  let records := (store.history.get? record.deviceId).getD []
  { store with
    history := store.history.put record.deviceId (pushNewest maxRecords record records) }

/-- Of several entries with one natural key the last is kept. -/
def upsertSessions (store : MemoryStore) (deviceId : Uuid) (batch : SessionBatch) : MemoryStore :=
  if batch.isEmpty then store
  else
    let snapshot := Table.ofList (batch.entries.map fun entry => (entry.naturalKey, entry))
    { store with sessions := store.sessions.put (deviceId, batch.kind) snapshot }

/-! ### Looking inside -/

def failures? (store : MemoryStore) (id : Uuid) : Option Nat :=
  (store.devices.get? id).map (·.failures)

def latestMetrics? (store : MemoryStore) (id : Uuid) : Option MetricsPoint :=
  (store.metrics.get? id).bind List.head?

/-- The sessions of a kind that are kept for a device; there are none of a kind that is not known. -/
def sessionsOf (store : MemoryStore) (id : Uuid) (kind : String) : List SessionEntry :=
  match SessionKind.ofText? kind with
  | some kind => ((store.sessions.get? (id, kind)).map Table.values).getD []
  | none => []

def sessionTotal (store : MemoryStore) : Nat :=
  store.sessions.values.foldl (fun total sessions => total + sessions.size) 0

def health (store : MemoryStore) : StoreHealth where
  healthy := true
  message := "in-memory storage operational"
  metadata := [
    ("devices", Text.natText store.devices.size),
    ("sessions", Text.natText store.sessionTotal)]

end MemoryStore

instance : Store MemoryStore where
  readDue store _ := store.listDue
  readDevice? store _ id := .ok ((store.devices.get? id).map (·.device))
  capabilities? store id := (store.entry id).map (·.capabilities)
  roles store id := (store.entry id).map fun entry => Role.byPriority entry.roles
  markPolled := MemoryStore.markPolled
  recordFailure := MemoryStore.recordFailure
  upsertDevice store device := .ok (store.upsertDevice device)
  writeMetrics store point := .ok (store.writeMetrics point)
  writeHistory store record := .ok (store.writeHistory record)
  upsertSessions store _ _ deviceId batch :=
    .ok (batch.size, store.upsertSessions deviceId batch)
  readHistory store _ id limit := .ok (((store.history.get? id).getD []).take limit)
  health store := .ok store.health

end RouterPoll
