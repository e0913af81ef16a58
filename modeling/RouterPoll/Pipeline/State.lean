import RouterPoll.Pipeline.Processor
import RouterPoll.Pipeline.Scheduler
import RouterPoll.Pipeline.Worker
import RouterPoll.Settings.Basic

/-!
# The pipeline

Scheduler, workers and processor as one machine. The scheduler admits devices and puts them into the work queue; a worker takes a device, polls it and hands the result to the result queue; the processor takes a result, writes it and releases the device. The parts run side by side, so the machine is given by its moves: each move is one action of one part, that can not be divided as far as the other parts can see, and any order of moves is a run. Polling can be called off at any moment: then the scheduler stops, jobs that are still waiting are dropped, and what was polled is still written.
-/

namespace RouterPoll

/-- What the scheduler is at: nothing, a step of a pass, a step towards a single device, or its end. -/
inductive Duty where
  | idle
  | checkingRoom (budget : Nat)
  | sizing (budget : Nat)
  | listing (budget limit : Nat)
  | visiting (budget admitted : Nat) (due : List Device)
  | sending (device : Device) (budget admitted : Nat) (due : List Device)
  | lookingUp (id : Uuid)
  | claiming (device : Device)
  | sendingSingle (device : Device)
  | ended (isClean : Bool)
  deriving DecidableEq

def Duty.isEnded : Duty → Bool
  | ended _ => true
  | _ => false

/-- What a worker is at. -/
inductive WorkerPhase where
  | waiting
  | holding (device : Device)
  | polling (device : Device) (startedAt : Instant)
  | forwarding (result : PollResult)
  | ended
  deriving DecidableEq

/-- What the processor is at: waiting for a result, or at one with some writes still to be done. -/
inductive ProcessorPhase where
  | waiting
  | writing (result : PollResult) (rest : List StoreUpdate)
  | ended
  deriving DecidableEq

structure Pipeline (σ : Type) where
  limit : Nat
  now : Instant
  cancelled : Bool
  store : σ
  inFlight : InFlight
  duty : Duty
  /-- The answer to the last command. -/
  reply : Option Reply
  work : Queue Device
  workers : List WorkerPhase
  /-- The devices whose jobs were dropped; they stay in flight. -/
  dropped : List Uuid
  results : Queue PollResult
  processor : ProcessorPhase
  tally : Tally

/-- The actions of the parts, of whoever calls the polling off, and of time. Workers go by their position. -/
inductive Move where
  | beginPass
  | beginSingle (id : Uuid)
  | proceed
  | stop
  | take (worker : Nat)
  | leave (worker : Nat)
  | consider (worker : Nat)
  | conclude (worker : Nat) (ending : FallbackEnd)
  | forward (worker : Nat)
  | accept
  | write
  | release
  | finish
  | cancel
  | advance (now : Instant)

/-- What waiting for the scheduler, then the workers, then the processor has come to. It fails as soon as the scheduler turns out to have crashed. -/
inductive Wait where
  | pending
  | failed
  | returned (tally : Tally)
  deriving DecidableEq

def Wait.tally? : Wait → Option Tally
  | returned tally => some tally
  | _ => none

namespace Pipeline

variable {σ : Type}

/-- A pipeline at rest. The work queue has room for as many devices as may be in flight, and there is at least one worker. -/
def create (settings : PollerSettings) (store : σ) (now : Instant) : Pipeline σ where
  limit := settings.admissionLimit
  now := now
  cancelled := false
  store := store
  inFlight := .empty
  duty := .idle
  reply := none
  work := .ofCapacity settings.admissionLimit
  workers := List.replicate (max settings.workerCount 1) .waiting
  dropped := []
  results := .ofCapacity settings.resultCapacity
  processor := .waiting
  tally := .zero

def budget (pipeline : Pipeline σ) : Nat := Admission.budget pipeline.limit pipeline.inFlight

/-! ### The scheduler -/

/-- The scheduler after it answered a command. -/
def answer (pipeline : Pipeline σ) (reply : Reply) : Pipeline σ :=
  { pipeline with duty := .idle, reply := some reply }

def beginPass? (pipeline : Pipeline σ) : Option (Pipeline σ) :=
  match pipeline.duty with
  | .idle =>
    if pipeline.cancelled then none
    else if pipeline.budget == 0 then some (pipeline.answer (.ok (.admitted 0)))
    else some { pipeline with duty := .checkingRoom pipeline.budget, reply := none }
  | _ => none

def beginSingle? (pipeline : Pipeline σ) (id : Uuid) : Option (Pipeline σ) :=
  match pipeline.duty with
  | .idle =>
    if pipeline.cancelled then none
    else if pipeline.budget == 0 then some (pipeline.answer (.ok (.taken false)))
    else some { pipeline with duty := .lookingUp id, reply := none }
  | _ => none

/-- The pipeline after the work queue was offered a device in flight, and whether it took it. -/
def sendDevice [Store σ] (pipeline : Pipeline σ) (device : Device) : Bool × Pipeline σ :=
  let (isTaken, admission) :=
    Admission.send ⟨pipeline.inFlight, pipeline.work⟩ (device.loaded pipeline.store)
  (isTaken, { pipeline with inFlight := admission.inFlight, work := admission.queue })

/-- The next step of what the scheduler is at. A pass ends early when the polling is called off, and also when the queue refuses a device. -/
def proceed? [Store σ] (pipeline : Pipeline σ) : Option (Pipeline σ) :=
  match pipeline.duty with
  | .checkingRoom budget =>
    if pipeline.work.room == 0 then some (pipeline.answer (.ok (.admitted 0)))
    else some { pipeline with duty := .sizing budget }
  | .sizing budget =>
    some { pipeline with duty := .listing budget (budget + pipeline.inFlight.size) }
  | .listing budget limit =>
    match Store.readDue pipeline.store (fun _ => pipeline.now) pipeline.now limit with
    | .refused error => some (pipeline.answer (.error (.listing error)))
    | .overflowed => some { pipeline with duty := .ended false, reply := some (.error .crashed) }
    | .listed devices => some { pipeline with duty := .visiting budget 0 devices }
  | .visiting budget admitted due =>
    match due with
    | [] => some (pipeline.answer (.ok (.admitted admitted)))
    | device :: due =>
      if budget ≤ admitted || pipeline.cancelled then
        some (pipeline.answer (.ok (.admitted admitted)))
      else match pipeline.inFlight.claim? device.id with
        | none => some { pipeline with duty := .visiting budget admitted due }
        | some inFlight =>
          some { pipeline with inFlight, duty := .sending device budget admitted due }
  | .sending device budget admitted due =>
    match pipeline.sendDevice device with
    | (true, pipeline) => some { pipeline with duty := .visiting budget (admitted + 1) due }
    | (false, pipeline) => some (pipeline.answer (.ok (.admitted admitted)))
  | .lookingUp id =>
    match Store.readDevice? pipeline.store pipeline.now id with
    | .error error => some (pipeline.answer (.error (.lookup error)))
    | .ok none => some (pipeline.answer (.error (.unknownDevice id)))
    | .ok (some device) => some { pipeline with duty := .claiming device }
  | .claiming device =>
    match pipeline.inFlight.claim? device.id with
    | none => some (pipeline.answer (.ok (.taken false)))
    | some inFlight => some { pipeline with inFlight, duty := .sendingSingle device }
  | .sendingSingle device =>
    let (isTaken, pipeline) := pipeline.sendDevice device
    some (pipeline.answer (.ok (.taken isTaken)))
  | .idle => none
  | .ended _ => none

def stop? (pipeline : Pipeline σ) : Option (Pipeline σ) :=
  match pipeline.duty with
  | .idle => if pipeline.cancelled then some { pipeline with duty := .ended true } else none
  | _ => none

/-! ### The workers -/

def setWorker (pipeline : Pipeline σ) (worker : Nat) (phase : WorkerPhase) : Pipeline σ :=
  { pipeline with workers := pipeline.workers.set worker phase }

def take? (pipeline : Pipeline σ) (worker : Nat) : Option (Pipeline σ) :=
  match pipeline.workers[worker]?, pipeline.work.take? with
  | some .waiting, some (device, work) =>
    some ({ pipeline with work }.setWorker worker (.holding device))
  | _, _ => none

/-- A worker leaves when nothing is left in the work queue and nothing more can come. -/
def leave? (pipeline : Pipeline σ) (worker : Nat) : Option (Pipeline σ) :=
  match pipeline.workers[worker]? with
  | some .waiting =>
    if pipeline.work.items.isEmpty && pipeline.duty.isEnded then
      some (pipeline.setWorker worker .ended)
    else none
  | _ => none

/-- A worker begins to poll the device it holds, or drops it when the polling is called off. -/
def consider? (pipeline : Pipeline σ) (worker : Nat) : Option (Pipeline σ) :=
  match pipeline.workers[worker]? with
  | some (.holding device) =>
    if pipeline.cancelled then
      some ({ pipeline with dropped := device.id :: pipeline.dropped }.setWorker worker .waiting)
    else some (pipeline.setWorker worker (.polling device pipeline.now))
  | _ => none

def conclude? (pipeline : Pipeline σ) (worker : Nat) (ending : FallbackEnd) :
    Option (Pipeline σ) :=
  match pipeline.workers[worker]? with
  | some (.polling device startedAt) =>
    (ending.toResult? device startedAt pipeline.now).map fun result =>
      pipeline.setWorker worker (.forwarding result)
  | _ => none

/-- A worker hands its result on as soon as there is room for it, and ends when nobody takes results any more. -/
def forward? (pipeline : Pipeline σ) (worker : Nat) : Option (Pipeline σ) :=
  match pipeline.workers[worker]? with
  | some (.forwarding result) =>
    if !pipeline.results.isOpen then some (pipeline.setWorker worker .ended)
    else (pipeline.results.offer? result).map fun results =>
      { pipeline with results }.setWorker worker .waiting
  | _ => none

/-! ### The processor -/

def accept? (pipeline : Pipeline σ) : Option (Pipeline σ) :=
  match pipeline.processor, pipeline.results.take? with
  | .waiting, some (result, results) =>
    some { pipeline with
      results
      processor := .writing result result.writes
      tally := pipeline.tally.count result }
  | _, _ => none

def write? [Store σ] (pipeline : Pipeline σ) : Option (Pipeline σ) :=
  match pipeline.processor with
  | .writing result (write :: rest) =>
    let written :=
      Processor.write pipeline.now ⟨pipeline.store, pipeline.inFlight, pipeline.tally⟩ write
    some { pipeline with
      store := written.store
      tally := written.tally
      processor := .writing result rest }
  | _ => none

def release? (pipeline : Pipeline σ) : Option (Pipeline σ) :=
  match pipeline.processor with
  | .writing result [] =>
    some { pipeline with
      inFlight := pipeline.inFlight.release result.deviceId
      processor := .waiting }
  | _ => none

/-- The processor ends when no result is left and all workers have ended. -/
def finish? (pipeline : Pipeline σ) : Option (Pipeline σ) :=
  match pipeline.processor with
  | .waiting =>
    if pipeline.results.items.isEmpty && pipeline.workers.all (· == .ended) then
      some { pipeline with processor := .ended }
    else none
  | _ => none

/-! ### Moves -/

/-- The pipeline after a move, where the move is possible. Time does not go back. -/
def step? [Store σ] (pipeline : Pipeline σ) : Move → Option (Pipeline σ)
  | .beginPass => pipeline.beginPass?
  | .beginSingle id => pipeline.beginSingle? id
  | .proceed => pipeline.proceed?
  | .stop => pipeline.stop?
  | .take worker => pipeline.take? worker
  | .leave worker => pipeline.leave? worker
  | .consider worker => pipeline.consider? worker
  | .conclude worker ending => pipeline.conclude? worker ending
  | .forward worker => pipeline.forward? worker
  | .accept => pipeline.accept?
  | .write => pipeline.write?
  | .release => pipeline.release?
  | .finish => pipeline.finish?
  | .cancel => some { pipeline with cancelled := true }
  | .advance now => if now.before pipeline.now then none else some { pipeline with now }

/-- Whether all parts have ended. -/
def isOver (pipeline : Pipeline σ) : Bool :=
  pipeline.duty.isEnded && pipeline.workers.all (· == .ended) && pipeline.processor == .ended

def wait (pipeline : Pipeline σ) : Wait :=
  match pipeline.duty with
  | .ended false => .failed
  | .ended true => if pipeline.isOver then .returned pipeline.tally else .pending
  | _ => .pending

end Pipeline

end RouterPoll
