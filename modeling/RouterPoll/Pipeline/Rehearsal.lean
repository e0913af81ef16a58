import RouterPoll.Adapter.Script
import RouterPoll.Pipeline.State

/-!
# Rehearsing the pipeline

A pipeline whose adapters follow scripts, played move by move in one fixed order: the scheduler before the processor, the processor before the workers, and the workers by their position. Every move takes a little time. A command is played until the scheduler has answered it. Only a pass that admits many devices lasts long enough for the processor or a worker to make moves meanwhile; everything else waits until the pipeline is left to settle. A poll that hangs does not settle until polling is called off.
-/

namespace RouterPoll

structure RehearsedPipeline (σ : Type) where
  pipeline : Pipeline σ
  registry : Registry Rehearsal
  scene : Rehearsal
  /-- The workers whose polls hang. -/
  stalled : List Nat

namespace RehearsedPipeline

variable {σ : Type}

/-- A pool of workers alone, over a work queue that is filled and has no scheduler any more. Nobody writes the results. -/
def pool (count : Nat) (jobs : List Device) (takesResults cancelled : Bool)
    (registry : Registry Rehearsal) (store : σ) (now : Instant) : RehearsedPipeline σ where
  pipeline := { Pipeline.create { PollerSettings.default with workerCount := count } store now with
    cancelled
    duty := .ended true
    work := ⟨jobs, jobs.length, true⟩
    results := ⟨[], jobs.length, takesResults⟩
    processor := .ended }
  registry := registry
  scene := ⟨cancelled, now, []⟩
  stalled := []

variable [Store σ]

/-- How long a move takes. -/
def moveMillis : Nat := 10

def play? (rehearsed : RehearsedPipeline σ) (move : Move) : Option (RehearsedPipeline σ) := do
  let moved ← rehearsed.pipeline.step? move
  let pipeline ← moved.step? (.advance (moved.now.later moveMillis))
  return { rehearsed with pipeline }

/-- A worker polls through the registry. A script that calls the polling off does so for the whole pipeline. -/
def poll? (rehearsed : RehearsedPipeline σ) (worker : Nat) : Option (RehearsedPipeline σ) :=
  match rehearsed.pipeline.workers[worker]? with
  | some (.polling device _) =>
    if rehearsed.stalled.contains worker then
      if rehearsed.pipeline.cancelled then
        { rehearsed with stalled := rehearsed.stalled.erase worker }.play?
          (.conclude worker (.settled (.error .cancelled)))
      else none
    else
      let (ending, scene) := rehearsed.registry.pollWithFallback device
        { rehearsed.scene with
          cancelled := rehearsed.pipeline.cancelled
          now := rehearsed.pipeline.now }
      let rehearsed := { rehearsed with scene }
      let rehearsed :=
        if scene.cancelled then (rehearsed.play? .cancel).getD rehearsed else rehearsed
      match ending with
      | .stalled => some { rehearsed with stalled := worker :: rehearsed.stalled }
      | ending => rehearsed.play? (.conclude worker ending)
  | _ => none

/-- The moves a worker can make besides polling, by what it is at. -/
def workerMoves (worker : Nat) : WorkerPhase → List Move
  | .waiting => [.take worker, .leave worker]
  | .holding _ => [.consider worker]
  | .polling _ _ => []
  | .forwarding _ => [.forward worker]
  | .ended => []

def workerTurn? (rehearsed : RehearsedPipeline σ) (worker : Nat) (phase : WorkerPhase) :
    Option (RehearsedPipeline σ) :=
  match phase with
  | .polling _ _ => rehearsed.poll? worker
  | phase => (workerMoves worker phase).findSome? rehearsed.play?

/-- The first move of the processor or a worker that is possible. -/
def backgroundTurn? (rehearsed : RehearsedPipeline σ) : Option (RehearsedPipeline σ) :=
  ([.write, .release, .accept, .finish].findSome? rehearsed.play?).or
    (rehearsed.pipeline.workers.zipIdx.findSome? fun (phase, worker) =>
      rehearsed.workerTurn? worker phase)

/-- The first move that is possible. -/
def turn? (rehearsed : RehearsedPipeline σ) : Option (RehearsedPipeline σ) :=
  ([.proceed, .stop].findSome? rehearsed.play?).or rehearsed.backgroundTurn?

/-- Takes turns until none is possible. -/
def settleWithin : Nat → RehearsedPipeline σ → RehearsedPipeline σ
  | 0, rehearsed => rehearsed
  | fuel + 1, rehearsed =>
    match rehearsed.turn? with
    | some next => settleWithin fuel next
    | none => rehearsed

/-- How many devices a pass admits while the other parts make one move. -/
def admissionsPerTurn : Nat := 16

/-- The next move of the scheduler, and one of the others where it is time for it. -/
def proceed? (rehearsed : RehearsedPipeline σ) : Option (RehearsedPipeline σ) :=
  (rehearsed.play? .proceed).map fun next =>
    match next.pipeline.duty with
    | .visiting _ admitted _ =>
      if 0 < admitted && admitted % admissionsPerTurn == 0 then next.backgroundTurn?.getD next
      else next
    | _ => next

/-- Lets the scheduler go on until it is done with what it is at. -/
def proceedWithin : Nat → RehearsedPipeline σ → RehearsedPipeline σ
  | 0, rehearsed => rehearsed
  | fuel + 1, rehearsed =>
    match rehearsed.proceed? with
    | some next => proceedWithin fuel next
    | none => rehearsed

/-- More turns than there can be. A pass visits at most as many devices as may be or are in flight, with two moves each, and a job takes at most thirteen. -/
def effort (rehearsed : RehearsedPipeline σ) : Nat :=
  let pipeline := rehearsed.pipeline
  16 * (pipeline.limit + pipeline.inFlight.size + pipeline.work.items.length
    + pipeline.results.items.length + pipeline.workers.length + 1)

def settle (rehearsed : RehearsedPipeline σ) : RehearsedPipeline σ :=
  settleWithin rehearsed.effort rehearsed

def perform (rehearsed : RehearsedPipeline σ) (command : Command) :
    Reply × RehearsedPipeline σ :=
  let beginning : Move :=
    match command with
    | .pass => .beginPass
    | .single id => .beginSingle id
  match rehearsed.play? beginning with
  | none => (.error (.unreachable command), rehearsed)
  | some begun =>
    let done := proceedWithin begun.effort begun
    (done.pipeline.reply.getD (.error .crashed), done)

/-- A pipeline that has just had its first pass. -/
def start (settings : PollerSettings) (registry : Registry Rehearsal) (store : σ) (now : Instant) :
    RehearsedPipeline σ :=
  (perform ⟨.create settings store now, registry, ⟨false, now, []⟩, []⟩ .pass).2

/-- Calls the polling off, and waits for the parts to end. Those that nobody waits for when the scheduler crashed end all the same. -/
def shutDown (rehearsed : RehearsedPipeline σ) : Option Tally × RehearsedPipeline σ :=
  let ended := ((rehearsed.play? .cancel).getD rehearsed).settle
  (ended.pipeline.wait.tally?, ended)

end RehearsedPipeline

end RouterPoll
