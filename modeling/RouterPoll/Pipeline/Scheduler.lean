import RouterPoll.Pipeline.InFlight
import RouterPoll.Pipeline.Loader
import RouterPoll.Pipeline.Queue

/-!
# Scheduling

The scheduler puts devices into the work queue, as many as may be in flight at once. A pass admits due devices in the order in which the store lists them; one that is in flight already is passed over, and a pass ends when the queue refuses a device. A single device can be admitted by its id, due or not. A device that the queue refuses is not in flight. The scheduler never waits for room in the queue: what is not admitted is still due at the next pass.
-/

namespace RouterPoll

inductive Command where
  | pass
  | single (id : Uuid)
  deriving DecidableEq

/-- The name under which a command is sent. -/
def Command.name : Command → String
  | pass => "TickNow"
  | single _ => "PollNow"

/-- Why a command has no answer. A scheduler that crashes over a command sends none, and one that has ended can not be reached. -/
inductive SchedulerError where
  | listing (error : StorageError)
  | lookup (error : StorageError)
  | unknownDevice (id : Uuid)
  | crashed
  | unreachable (command : Command)
  deriving DecidableEq

def SchedulerError.message : SchedulerError → String
  | listing error => "failed to list due devices: " ++ error.message
  | lookup error => "failed to look up device: " ++ error.message
  | unknownDevice id => "device " ++ id.text ++ " not found"
  | crashed => "failed to receive response: channel closed"
  | unreachable command => "failed to send " ++ command.name ++ " command: channel closed"

/-- The answer to a command: how many devices were admitted, or whether the one was. -/
inductive Answer where
  | admitted (count : Nat)
  | taken (isTaken : Bool)
  deriving DecidableEq, Repr

abbrev Reply := Except SchedulerError Answer

/-- The two places a device goes to when it is admitted. -/
structure Admission where
  inFlight : InFlight
  queue : Queue Device
  deriving DecidableEq

namespace Admission

variable {σ : Type} [Store σ]

/-- How many more devices may be in flight under a limit. -/
def budget (limit : Nat) (inFlight : InFlight) : Nat := limit - inFlight.size

/-- Hands a device that is in flight to the queue, and releases it if the queue refuses it. -/
def send (admission : Admission) (device : Device) : Bool × Admission :=
  match admission.queue.offer? device with
  | some queue => (true, { admission with queue })
  | none => (false, { admission with inFlight := admission.inFlight.release device.id })

/-- Visits listed devices until `budget` of them are admitted or the queue refuses one, and counts the admitted. -/
def visit (store : σ) : List Device → (budget : Nat) → Admission → Nat × Admission
  | [], _, admission => (0, admission)
  | _, 0, admission => (0, admission)
  | device :: rest, budget + 1, admission =>
    match admission.inFlight.claim? device.id with
    | none => visit store rest (budget + 1) admission
    | some inFlight =>
      match send { admission with inFlight } (device.loaded store) with
      | (true, admission) =>
        let (count, admission) := visit store rest budget admission
        (count + 1, admission)
      | (false, admission) => (0, admission)

/-- One pass under a limit. It asks for so many devices that those in flight can not hide others. -/
def pass (store : σ) (now : Instant) (limit : Nat) (admission : Admission) : Reply × Admission :=
  let budget := budget limit admission.inFlight
  if budget == 0 || admission.queue.room == 0 then (.ok (.admitted 0), admission)
  else
    match Store.readDue store (fun _ => now) now (budget + admission.inFlight.size) with
    | .refused error => (.error (.listing error), admission)
    | .overflowed => (.error .crashed, admission)
    | .listed devices =>
      let (count, admission) := visit store devices budget admission
      (.ok (.admitted count), admission)

/-- Admits one device by its id. -/
def single (store : σ) (now : Instant) (limit : Nat) (id : Uuid) (admission : Admission) :
    Reply × Admission :=
  if budget limit admission.inFlight == 0 then (.ok (.taken false), admission)
  else
    match Store.readDevice? store now id with
    | .error error => (.error (.lookup error), admission)
    | .ok none => (.error (.unknownDevice id), admission)
    | .ok (some device) =>
      match admission.inFlight.claim? device.id with
      | none => (.ok (.taken false), admission)
      | some inFlight =>
        let (isTaken, admission) := send { admission with inFlight } (device.loaded store)
        (.ok (.taken isTaken), admission)

end Admission

/-- How a scheduler stands: at work, stopped when it was told to, or crashed. -/
inductive SchedulerState where
  | running
  | stopped
  | crashed
  deriving DecidableEq, Repr

/-- A scheduler that works on its own, command by command. -/
structure Scheduler where
  limit : Nat
  state : SchedulerState
  admission : Admission

namespace Scheduler

variable {σ : Type} [Store σ]

/-- A scheduler for a limit, of which there is at least one. -/
def create (limit : Nat) (admission : Admission) : Scheduler :=
  ⟨max limit 1, .running, admission⟩

def perform (scheduler : Scheduler) (store : σ) (now : Instant) (command : Command) :
    Reply × Scheduler :=
  if scheduler.state != .running then (.error (.unreachable command), scheduler)
  else
    let (reply, admission) :=
      match command with
      | .pass => scheduler.admission.pass store now scheduler.limit
      | .single id => scheduler.admission.single store now scheduler.limit id
    let state := if reply matches .error .crashed then .crashed else scheduler.state
    (reply, { scheduler with state, admission })

/-- Stops the scheduler, if it still works. -/
def stop (scheduler : Scheduler) : Scheduler :=
  if scheduler.state == .running then { scheduler with state := .stopped } else scheduler

end Scheduler

end RouterPoll
