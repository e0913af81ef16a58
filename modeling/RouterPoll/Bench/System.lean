import RouterPoll.Bench.Adapters
import RouterPoll.Pipeline.Rehearsal
import RouterPoll.Store.Backend
import RouterPoll.Store.Faulty

/-!
# Systems on the bench

A store whose operations can be made to fail, a set of devices in flight, and at most one scheduler on its own and one pipeline that work on them. The stages can be tried one by one or all together. What is asked of a stage that is not there has no answer.
-/

namespace RouterPoll

structure Bench where
  now : Instant
  store : FaultyStore Backend
  inFlight : InFlight
  scheduler : Option Scheduler
  poller : Option (RehearsedPipeline (FaultyStore Backend))
  scripts : List Script

namespace Bench

def create (backend : Backend) (now : Instant) : Bench :=
  ⟨now, ⟨backend, []⟩, .empty, none, none, []⟩

/-- How long the bench rests between two steps. -/
def restMillis : Nat := 1000

def rest (bench : Bench) : Bench := { bench with now := bench.now.later restMillis }

/-! ### The store -/

/-- Writes copies of a record that count up the collected metrics. -/
def writeCopies : Nat → HistoryRecord → FaultyStore Backend →
    Except StorageError (FaultyStore Backend)
  | 0, _, store => .ok store
  | count + 1, record, store => do
    let store ← Store.writeHistory store record
    let next :=
      { record with metricsCollected := min (record.metricsCollected + 1) (Text.limit32 - 1) }
    writeCopies count next store

/-- Closes the store and opens it again: a database is as it was, but its faults are gone. -/
def reopen (bench : Bench) : Bench :=
  match bench.store.inner with
  | .memory _ => bench
  | .database _ => { bench with store := { bench.store with faults := [] } }

def failures? (id : Uuid) : Backend → Except StorageError (Option Nat)
  | .memory store => .ok (store.failures? id)
  | .database database => database.failures? id

/-- What the clock shows to one who reads a store on the bench. It stands still, so that an answer can be compared with another one. -/
def standing : Instant := ⟨0, 0⟩

def latestMetrics? (id : Uuid) : Backend → Except StorageError (Option MetricsPoint)
  | .memory store => .ok (store.latestMetrics? id)
  | .database database => database.latestMetrics? standing id

def sessionCount (id : Uuid) (kind : String) : Backend → Except StorageError Nat
  | .memory store => .ok (store.sessionsOf id kind).length
  | .database database => database.sessionCount id kind

end Bench

/-! ### Reading a store under a standing clock -/

namespace Store

variable {σ : Type} [Store σ]

def listDue (store : σ) (now : Instant) (limit : Nat) : Listing :=
  readDue store (fun _ => Bench.standing) now limit

def device? (store : σ) (id : Uuid) : Except StorageError (Option Device) :=
  readDevice? store Bench.standing id

def history (store : σ) (id : Uuid) (limit : Nat) : Except StorageError (List HistoryRecord) :=
  readHistory store (fun _ => Bench.standing) id limit

end Store

namespace Bench

/-! ### Single stages -/

/-- Writes results into the store of the bench, and counts them. -/
def process (bench : Bench) (results : List PollResult) : Tally × Bench :=
  let processor := Processor.processAll bench.now ⟨bench.store, bench.inFlight, .zero⟩ results
  (processor.tally, { bench with store := processor.store, inFlight := processor.inFlight })

/-- A pool of workers that has polled all devices it was given. -/
def workOff (bench : Bench) (scripts : List Script) (count : Nat) (devices : List Device)
    (takesResults cancelled : Bool) : RehearsedPipeline (FaultyStore Backend) :=
  (RehearsedPipeline.pool count devices takesResults cancelled (Script.registry scripts).1
    bench.store bench.now).settle

/-- Starts a scheduler, which makes its first pass unless it is stopped at once. -/
def startScheduler (bench : Bench) (limit capacity : Nat) (isStopped : Bool) : Bench :=
  let scheduler := Scheduler.create limit ⟨bench.inFlight, .ofCapacity capacity⟩
  let scheduler :=
    if isStopped then scheduler.stop else (scheduler.perform bench.store bench.now .pass).2
  { bench with scheduler := some scheduler, inFlight := scheduler.admission.inFlight }

/-- Runs something on the scheduler, which shares the devices in flight with the bench. -/
def onScheduler (bench : Bench) (run : Scheduler → α × Scheduler) : Option (α × Bench) :=
  bench.scheduler.map fun scheduler =>
    let admission := { scheduler.admission with inFlight := bench.inFlight }
    let (value, scheduler) := run { scheduler with admission }
    (value,
      { bench with scheduler := some scheduler, inFlight := scheduler.admission.inFlight })

/-- Takes up to a number of devices out of a queue. -/
def takeUpTo : Nat → Queue Device → List Device × Queue Device
  | 0, queue => ([], queue)
  | count + 1, queue =>
    match queue.take? with
    | none => ([], queue)
    | some (device, queue) =>
      let (devices, queue) := takeUpTo count queue
      (device :: devices, queue)

def receiveFrom (count : Nat) (scheduler : Scheduler) : List Device × Scheduler :=
  let (devices, queue) := takeUpTo count scheduler.admission.queue
  (devices, { scheduler with admission := { scheduler.admission with queue } })

/-- Takes devices out of the work queue of the scheduler, all of them where no limit is given. -/
def receive (bench : Bench) (limit : Option Nat) : Option (List Device × Bench) :=
  bench.onScheduler fun scheduler =>
    receiveFrom (limit.getD scheduler.admission.queue.items.length) scheduler

/-- Waits for one device, which the next pass may bring; there is none when no pass can follow. -/
def awaitDevice (bench : Bench) : Option (Option Device × Bench) :=
  bench.onScheduler fun scheduler =>
    let scheduler :=
      if scheduler.admission.queue.items.isEmpty then
        (scheduler.perform bench.store bench.now .pass).2
      else scheduler
    let (devices, scheduler) := receiveFrom 1 scheduler
    (devices.head?, scheduler)

def closeQueue (bench : Bench) : Option (Unit × Bench) :=
  bench.onScheduler fun scheduler =>
    let queue := scheduler.admission.queue.close
    ((), { scheduler with admission := { scheduler.admission with queue } })

/-- Stops the scheduler, and says whether it ended cleanly. -/
def stopScheduler (bench : Bench) : Option (Bool × Bench) :=
  bench.onScheduler fun scheduler =>
    let stopped := scheduler.stop
    (stopped.state == .stopped, stopped)

/-! ### The whole pipeline -/

/-- Runs something on the pipeline, which shares store and time with the bench. -/
def onPoller (bench : Bench)
    (run : RehearsedPipeline (FaultyStore Backend) → α × RehearsedPipeline (FaultyStore Backend)) :
    Option (α × Bench) :=
  bench.poller.map fun poller =>
    let pipeline := { poller.pipeline with store := bench.store, now := bench.now }
    let (value, poller) := run { poller with pipeline }
    (value,
      { bench with
        poller := some poller
        store := poller.pipeline.store
        now := poller.pipeline.now })

/-- Starts a pipeline over scripts, and says which of them were taken. -/
def startPoller (bench : Bench) (settings : PollerSettings) (scripts : List Script) :
    List Bool × Bench :=
  let (registry, flags) := Script.registry scripts
  let poller := RehearsedPipeline.start settings registry bench.store bench.now
  (flags,
    { bench with
      poller := some poller
      scripts
      store := poller.pipeline.store
      now := poller.pipeline.now })

/-- Lets the pipeline settle, and gives how many devices are still in flight. -/
def settle (bench : Bench) : Option (Nat × Bench) :=
  bench.onPoller fun poller =>
    let settled := poller.settle
    (settled.pipeline.inFlight.size, settled)

/-- How often each script polled each device. -/
def pollCounts (bench : Bench) : Option (List (String × List (String × Nat))) :=
  bench.poller.map fun poller =>
    bench.scripts.zipIdx.map fun (script, number) =>
      (script.name, (poller.scene.polls.filter (·.adapter == number)).map fun entry =>
        (entry.device, entry.count))

/-- Shuts the pipeline down, after which it is gone. -/
def shutDown (bench : Bench) : Option (Option Tally × Bench) :=
  (bench.onPoller RehearsedPipeline.shutDown).map fun (outcome, bench) =>
    (outcome, { bench with poller := none })

/-- Sends a command to the scheduler on its own, or else to that of the pipeline. -/
def perform (bench : Bench) (command : Command) : Option (Reply × Bench) :=
  match bench.scheduler with
  | some _ => bench.onScheduler fun scheduler => scheduler.perform bench.store bench.now command
  | none => bench.onPoller fun poller => poller.perform command

end Bench

end RouterPoll
