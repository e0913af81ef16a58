import RouterPoll.Pipeline.InFlight
import RouterPoll.Store.Contract

/-!
# Writing results

What a store is asked to keep of a result. Every result leaves a history record. A success also dates the device, leaves a point of metrics, and replaces the sessions it brought; a failure is counted, unless the poll was only called off. A write that the store refuses is counted. When all writes of a result are done, its device is no longer in flight.
-/

namespace RouterPoll

/-- One thing that a store is asked to keep of a result. -/
inductive StoreUpdate where
  | history (record : HistoryRecord)
  | polled (deviceId : Uuid) (polledAt : Instant)
  | metrics (point : MetricsPoint)
  | sessions (tenantId deviceId : Uuid) (batch : SessionBatch)
  | failure (deviceId : Uuid)
  deriving DecidableEq

/-- The store after a write, which is the one before it where the write is refused. -/
def settleWrite (store : σ) : Except StorageError σ → Except StorageError Unit × σ
  | .ok store => (.ok (), store)
  | .error error => (.error error, store)

/-- What comes of a write, and the store after it. -/
def StoreUpdate.run [Store σ] (now : Instant) (store : σ) :
    StoreUpdate → Except StorageError Unit × σ
  | history record => settleWrite store (Store.writeHistory store record)
  | polled deviceId polledAt => settleWrite store (Store.markPolled store deviceId polledAt)
  | metrics point => settleWrite store (Store.writeMetrics store point)
  | sessions tenantId deviceId batch =>
    settleWrite store ((Store.upsertSessions store now tenantId deviceId batch).map (·.2))
  | failure deviceId => (Store.recordFailure store deviceId).map (·.map fun _ => ()) id

namespace PollResult

/-- The writes of a success beside its record. The interval of a device counts from when its poll began. -/
def successWrites (result : PollResult) : List StoreUpdate :=
  [.polled result.deviceId result.startedAt,
    .metrics (.ofResult result.tenantId result.deviceId result.completedAt result)]
  ++ result.sessionBatches.map (.sessions result.tenantId result.deviceId)

def failureWrites (result : PollResult) : List StoreUpdate :=
  if result.cancelled then [] else [.failure result.deviceId]

/-- All writes of a result, in order. -/
def writes (result : PollResult) : List StoreUpdate :=
  .history (.ofResult result) ::
    if result.success then result.successWrites else result.failureWrites

end PollResult

/-- Running totals of the results that were written. -/
structure Tally where
  processed : Nat
  succeeded : Nat
  failed : Nat
  storageErrors : Nat
  deriving DecidableEq, Repr, Inhabited

namespace Tally

def zero : Tally := ⟨0, 0, 0, 0⟩

def count (tally : Tally) (result : PollResult) : Tally :=
  if result.success then
    { tally with processed := tally.processed + 1, succeeded := tally.succeeded + 1 }
  else { tally with processed := tally.processed + 1, failed := tally.failed + 1 }

def countError (tally : Tally) : Tally := { tally with storageErrors := tally.storageErrors + 1 }

end Tally

/-- What results are written into. -/
structure Processor (σ : Type) where
  store : σ
  inFlight : InFlight
  tally : Tally

namespace Processor

variable {σ : Type} [Store σ]

/-- One write; a refusal is counted. -/
def write (now : Instant) (processor : Processor σ) (write : StoreUpdate) : Processor σ :=
  match write.run now processor.store with
  | (.ok (), store) => { processor with store }
  | (.error _, store) => { processor with store, tally := processor.tally.countError }

def process (now : Instant) (processor : Processor σ) (result : PollResult) : Processor σ :=
  let written :=
    result.writes.foldl (write now) { processor with tally := processor.tally.count result }
  { written with inFlight := written.inFlight.release result.deviceId }

def processAll (now : Instant) (processor : Processor σ) (results : List PollResult) :
    Processor σ :=
  results.foldl (process now) processor

end Processor

end RouterPoll
