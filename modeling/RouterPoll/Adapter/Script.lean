import RouterPoll.Adapter.Registry

/-!
# Scripted adapters

An adapter that follows a script instead of reaching a device, for rehearsing what a registry or a whole pipeline does with the ways a poll can go. A script has a list of acts for every device, of which each poll takes the next and the last one repeats.
-/

namespace RouterPoll

namespace Script

/-- What a successful act brings back. -/
structure Harvest where
  metrics : Metrics
  interfaces : List InterfaceStatus
  pppoeSessions : List PppoeSession
  natSessions : List NatSession
  dhcpLeases : List DhcpLease
  deriving DecidableEq, Inhabited

/-- How one poll goes. -/
inductive Act where
  | success (harvest : Harvest)
  | failure (message : Option String)
  | refusal (error : PollError)
  | crash
  | hang
  | cancel (message : String)
  deriving DecidableEq

/-- Which devices an adapter can handle: all or none, those with certain names, or it crashes over the question. -/
inductive Handling where
  | always (answer : Bool)
  | named (names : List String)
  | crash
  deriving DecidableEq, Repr

def Handling.answer (handling : Handling) (device : Device) : Option Bool :=
  match handling with
  | always answer => some answer
  | named names => some (names.contains device.name)
  | crash => none

/-- The acts for a device, of which there is at least one. -/
structure Acts where
  first : Act
  rest : List Act
  deriving DecidableEq

/-- The act of a poll by the number of polls before it; the last act repeats. -/
def Acts.at (acts : Acts) (polls : Nat) : Act :=
  let all := acts.first :: acts.rest
  (all[polls]?).getD (all.getLastD acts.first)

end Script

structure Script where
  name : String
  method : Method
  handling : Script.Handling
  acts : Script.Acts
  actsByDevice : List (String × Script.Acts)
  health : Option PollError
  supportedMetrics : List String
  deriving DecidableEq

/-- The polls of one device through one adapter, counted. -/
structure PollCount where
  adapter : Nat
  device : String
  count : Nat
  deriving DecidableEq, Repr

/-- The surroundings of scripted adapters: whether polls are called off, the time, and how often each adapter polled each device. -/
structure Rehearsal where
  cancelled : Bool
  now : Instant
  polls : List PollCount
  deriving DecidableEq, Inhabited

instance : Surroundings Rehearsal where
  isCancelled := Rehearsal.cancelled
  now := Rehearsal.now

namespace Rehearsal

def countOf (rehearsal : Rehearsal) (adapter : Nat) (device : String) : Nat :=
  match rehearsal.polls.find? fun entry => entry.adapter == adapter && entry.device == device with
  | some entry => entry.count
  | none => 0

/-- All polls of one adapter. -/
def total (rehearsal : Rehearsal) (adapter : Nat) : Nat :=
  (rehearsal.polls.filter (·.adapter == adapter)).foldl (fun total entry => total + entry.count) 0

def countUp (adapter : Nat) (device : String) : List PollCount → List PollCount
  | [] => [⟨adapter, device, 1⟩]
  | entry :: rest =>
    if entry.adapter == adapter && entry.device == device then
      { entry with count := entry.count + 1 } :: rest
    else entry :: countUp adapter device rest

def record (rehearsal : Rehearsal) (adapter : Nat) (device : String) : Rehearsal :=
  { rehearsal with polls := countUp adapter device rehearsal.polls }

end Rehearsal

namespace Script

def actsFor (script : Script) (device : String) : Acts :=
  (script.actsByDevice.lookup device).getD script.acts

/-- A result filled with what an act brings back. -/
def Harvest.fill (harvest : Harvest) (result : PollResult) : PollResult :=
  { result with
    metrics := harvest.metrics
    interfaces := harvest.interfaces
    pppoeSessions := harvest.pppoeSessions
    natSessions := harvest.natSessions
    dhcpLeases := harvest.dhcpLeases }

/-- One poll by an act. A hanging act returns only when the poll is called off. -/
def perform (name : String) (device : Device) (act : Act) (rehearsal : Rehearsal) :
    Attempt × Rehearsal :=
  let now := rehearsal.now
  let result := PollResult.start device name now
  match act with
  | .success harvest => (.answered ((harvest.fill result).succeed now), rehearsal)
  | .failure (some message) => (.answered (result.fail message now), rehearsal)
  | .failure none => (.answered (result.finish now), rehearsal)
  | .refusal error => (.refused (SessionFailure.of error result now), rehearsal)
  | .crash => (.crashed, rehearsal)
  | .hang =>
    if rehearsal.cancelled then (.refused (SessionFailure.of .cancelled result now), rehearsal)
    else (.stalled, rehearsal)
  | .cancel message =>
    (.answered (result.fail message now), { rehearsal with cancelled := true })

/-- The adapter that follows a script. Its number tells its polls from those of other adapters. -/
def adapter (number : Nat) (script : Script) : Adapter Rehearsal where
  name := script.name
  method := script.method
  canHandle := script.handling.answer
  poll device rehearsal :=
    let act := (script.actsFor device.name).at (rehearsal.countOf number device.name)
    perform script.name device act (rehearsal.record number device.name)
  checkHealth _ rehearsal :=
    (match script.health with
      | some error => .error error
      | none => .ok (), rehearsal)
  supportedMetrics := script.supportedMetrics

end Script

end RouterPoll
