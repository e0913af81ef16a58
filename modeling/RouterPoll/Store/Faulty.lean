import RouterPoll.Store.Contract

/-!
# Stores with faults

A store in which chosen operations are refused before they reach it. Everything else goes through, so what is said of all stores also holds where any of their operations fail.
-/

namespace RouterPoll

/-- The operations of a store. -/
inductive StoreOperation where
  | listDue
  | device
  | capabilities
  | roles
  | markPolled
  | recordFailure
  | upsertDevice
  | writeMetrics
  | writeHistory
  | upsertSessions
  | history
  | health
  deriving DecidableEq, Repr

namespace StoreOperation

def text : StoreOperation → String
  | listDue => "list_due"
  | device => "get_device"
  | capabilities => "load_capabilities"
  | roles => "load_roles"
  | markPolled => "mark_polled"
  | recordFailure => "record_failure"
  | upsertDevice => "upsert_device"
  | writeMetrics => "write_system_metrics"
  | writeHistory => "write_history"
  | upsertSessions => "upsert_sessions"
  | history => "query_history"
  | health => "health_check"

def all : List StoreOperation := [
  listDue, device, capabilities, roles, markPolled, recordFailure, upsertDevice, writeMetrics,
  writeHistory, upsertSessions, history, health]

def ofText? (name : String) : Option StoreOperation := all.find? (·.text == name)

end StoreOperation

/-- A store, and the operations it refuses. -/
structure FaultyStore (σ : Type) where
  inner : σ
  faults : List StoreOperation

namespace FaultyStore

variable {σ : Type}

/-- The refusal of an operation. -/
def refusal (operation : StoreOperation) : StorageError :=
  .queryFailed ("injected " ++ operation.text)

/-- The store behind the faults, for an operation that is not refused. -/
def reach (store : FaultyStore σ) (operation : StoreOperation) : Except StorageError σ :=
  if store.faults.contains operation then .error (refusal operation) else .ok store.inner

/-- The store with another one behind its faults. -/
def around (store : FaultyStore σ) (inner : σ) : FaultyStore σ := { store with inner }

instance [Store σ] : Store (FaultyStore σ) where
  readDue store clock now limit :=
    match store.reach .listDue with
    | .ok inner => Store.readDue inner clock now limit
    | .error error => .refused error
  readDevice? store clock id := do Store.readDevice? (← store.reach .device) clock id
  capabilities? store id := do Store.capabilities? (← store.reach .capabilities) id
  roles store id := do Store.roles (← store.reach .roles) id
  markPolled store id polledAt := do
    return store.around (← Store.markPolled (← store.reach .markPolled) id polledAt)
  recordFailure store id :=
    match store.reach .recordFailure with
    | .ok inner => (Store.recordFailure inner id).map (fun count => count) store.around
    | .error error => (.error error, store)
  upsertDevice store device := do
    return store.around (← Store.upsertDevice (← store.reach .upsertDevice) device)
  writeMetrics store point := do
    return store.around (← Store.writeMetrics (← store.reach .writeMetrics) point)
  writeHistory store record := do
    return store.around (← Store.writeHistory (← store.reach .writeHistory) record)
  upsertSessions store now tenantId deviceId batch := do
    let inner ← store.reach .upsertSessions
    let (count, inner) ← Store.upsertSessions inner now tenantId deviceId batch
    return (count, store.around inner)
  readHistory store clock id limit := do
    Store.readHistory (← store.reach .history) clock id limit
  health store := do Store.health (← store.reach .health)

end FaultyStore

end RouterPoll
