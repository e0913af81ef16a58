import RouterPoll.Store.Error
import RouterPoll.Store.Record

/-!
# Stores

A store knows the devices and how their polls went, and keeps what polls bring back. Its operations are functions of the store: those that only read leave it as it is, and one that is refused leaves no trace, but for a failure, which may be counted although the count can not be told. The time of a write matters only to stores that date their rows, and what the clock shows during a read only to stores that keep times in columns, which may hold none.
-/

namespace RouterPoll

/-- The condition of a store, with a few words about it. -/
structure StoreHealth where
  healthy : Bool
  message : String
  metadata : List (String × String)
  deriving DecidableEq, Repr

/-- What comes of listing due devices. It overflows when the next poll of a device lies beyond all instants. -/
inductive Listing where
  | listed (devices : List Device)
  | refused (error : StorageError)
  | overflowed
  deriving DecidableEq

class Store (σ : Type) where
  /-- The first `limit` devices that are due, without capabilities and roles. The clock is given for each of them. -/
  readDue : σ → (clock : Nat → Instant) → (now : Instant) → (limit : Nat) → Listing
  readDevice? : σ → (clock : Instant) → Uuid → Except StorageError (Option Device)
  capabilities? : σ → Uuid → Except StorageError (Option CapabilitySet)
  roles : σ → Uuid → Except StorageError (List Role)
  /-- Notes a successful poll, which ends a row of failures. -/
  markPolled : σ → Uuid → (polledAt : Instant) → Except StorageError σ
  /-- Counts a failure, and gives how many there were in a row. -/
  recordFailure : σ → Uuid → Except StorageError Nat × σ
  /-- Puts a device in, with its capabilities and roles. One that is there keeps its failures, and the time of its last poll unless the new one brings its own. -/
  upsertDevice : σ → Device → Except StorageError σ
  writeMetrics : σ → MetricsPoint → Except StorageError σ
  writeHistory : σ → HistoryRecord → Except StorageError σ
  /-- Replaces what is kept of one kind of session for a device, unless the batch is empty; gives the size of the batch. -/
  upsertSessions : σ → (now : Instant) → (tenantId deviceId : Uuid) → SessionBatch →
    Except StorageError (Nat × σ)
  /-- The newest records of a device, newest first. The clock is given for the two times of each. -/
  readHistory : σ → (clock : Nat → Instant) → Uuid → (limit : Nat) →
    Except StorageError (List HistoryRecord)
  health : σ → Except StorageError StoreHealth

end RouterPoll
