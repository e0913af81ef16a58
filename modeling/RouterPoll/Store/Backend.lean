import RouterPoll.Settings.Basic
import RouterPoll.Store.Database
import RouterPoll.Store.Memory

/-!
# Backends

The store that the settings ask for: one in memory, also where nothing is said, or a database at a path. A database needs a place where its file can be.
-/

namespace RouterPoll

inductive Backend where
  | memory (store : MemoryStore)
  | database (database : Database)
  deriving DecidableEq

namespace Backend

/-- A path at which there can be no database. -/
def unopenable : StorageError :=
  .connectionFailed "error returned from database: (code: 14) unable to open database file"

/-- A path that can not be handed over, because a zero ends it early. -/
def unspeakable : StorageError :=
  .connectionFailed
    "error communicating with database: filename passed to SQLite must not contain nul bytes"

/-- The store for settings. `isOpenable` says where database files can be. -/
def openAs (isOpenable : String → Bool) : Option StorageSettings → Except StorageError Backend
  | none => .ok (.memory .empty)
  | some .memory => .ok (.memory .empty)
  | some (.sqlite path) =>
    if path.contains (Char.ofNat 0) then .error unspeakable
    else if isOpenable path then .ok (.database (.create path)) else .error unopenable

end Backend

instance : Store Backend where
  readDue
    | .memory store => Store.readDue store
    | .database store => Store.readDue store
  readDevice?
    | .memory store => Store.readDevice? store
    | .database store => Store.readDevice? store
  capabilities?
    | .memory store => Store.capabilities? store
    | .database store => Store.capabilities? store
  roles
    | .memory store => Store.roles store
    | .database store => Store.roles store
  markPolled
    | .memory store, id, polledAt => (Store.markPolled store id polledAt).map .memory
    | .database store, id, polledAt => (Store.markPolled store id polledAt).map .database
  recordFailure
    | .memory store, id => (Store.recordFailure store id).map (fun count => count) .memory
    | .database store, id => (Store.recordFailure store id).map (fun count => count) .database
  upsertDevice
    | .memory store, device => (Store.upsertDevice store device).map .memory
    | .database store, device => (Store.upsertDevice store device).map .database
  writeMetrics
    | .memory store, point => (Store.writeMetrics store point).map .memory
    | .database store, point => (Store.writeMetrics store point).map .database
  writeHistory
    | .memory store, record => (Store.writeHistory store record).map .memory
    | .database store, record => (Store.writeHistory store record).map .database
  upsertSessions
    | .memory store, now, tenantId, deviceId, batch =>
      (Store.upsertSessions store now tenantId deviceId batch).map
        fun (count, store) => (count, .memory store)
    | .database store, now, tenantId, deviceId, batch =>
      (Store.upsertSessions store now tenantId deviceId batch).map
        fun (count, store) => (count, .database store)
  readHistory
    | .memory store => Store.readHistory store
    | .database store => Store.readHistory store
  health
    | .memory store => Store.health store
    | .database store => Store.health store

end RouterPoll
