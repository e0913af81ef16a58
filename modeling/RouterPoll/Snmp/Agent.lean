import RouterPoll.Snmp.Session

/-!
# Described agents

An agent that is given by a description instead of being reached: the objects it holds in the order of their names, detours where the successor of a name is another, and faults that strike requests for certain objects. It keeps a log of the requests it got.
-/

namespace RouterPoll

namespace Snmp

/-- How a fault strikes a request. -/
inductive FaultKind where
  | drop
  | faulty (reason : String)
  | cancel
  | cancelLater
  deriving DecidableEq, Repr

/-- A poll that is to be called off later is called off at the next pause, or at a request after which more requests have been got than any table takes. -/
def patience : Nat := 8192

/-- A fault of requests for one object, at most a number of times. -/
structure Fault where
  oid : Oid
  kind : FaultKind
  left : Option Nat
  deriving DecidableEq, Repr

/-- An agent by description. The oldest protocol version has its own way to say that there is nothing. -/
structure Agent where
  objects : List Binding
  detours : List (Oid × Oid)
  isV1 : Bool
  deriving DecidableEq

/-- An agent among surroundings that it can change: requests got so far, newest first, and faults still to come. -/
structure AgentScene where
  cancelled : Bool
  cancelSoon : Bool
  now : Instant
  faults : List Fault
  log : List Request
  deriving DecidableEq

instance : Surroundings AgentScene where
  isCancelled := AgentScene.cancelled
  now := AgentScene.now

def Request.oid : Request → Oid
  | get oid => oid
  | next oid => oid
  | bulk oid _ => oid

def Request.text : Request → String
  | get oid => "get " ++ oid.text
  | next oid => "getnext " ++ oid.text
  | bulk oid _ => "getbulk " ++ oid.text

namespace Agent

/-- Puts an object in its place; one that has its name already is replaced. -/
def insertObject (binding : Binding) : List Binding → List Binding
  | [] => [binding]
  | other :: rest =>
    if binding.oid.before other.oid then binding :: other :: rest
    else if binding.oid == other.oid then binding :: rest
    else other :: insertObject binding rest

def valueAt? (agent : Agent) (oid : Oid) : Option Value :=
  (agent.objects.find? (·.oid == oid)).map (·.value)

/-- The object after a name. -/
def after? (agent : Agent) (oid : Oid) : Option Binding :=
  match agent.detours.lookup oid with
  | some target => some ⟨target, (agent.valueAt? target).getD .null⟩
  | none => agent.objects.find? fun binding => oid.before binding.oid

/-- Successors one after the other, and the mark of the end under the last name. -/
def successors (agent : Agent) : Nat → Oid → List Binding
  | 0, _ => []
  | count + 1, oid =>
    match agent.after? oid with
    | some binding => binding :: successors agent count binding.oid
    | none => [⟨oid, .endOfMib⟩]

/-- The answer of an agent that is well. -/
def answer (agent : Agent) : Request → List Binding
  | .get oid =>
    [⟨oid, (agent.valueAt? oid).getD (if agent.isV1 then .null else .noSuchInstance)⟩]
  | .next oid =>
    match agent.after? oid with
    | some binding => [binding]
    | none => [⟨oid, if agent.isV1 then .null else .endOfMib⟩]
  | .bulk oid repetitions => successors agent repetitions oid

/-- The first fault for an object that is not used up, with the faults that are left after it struck. -/
def strike (oid : Oid) : List Fault → Option (FaultKind × List Fault)
  | [] => none
  | fault :: rest =>
    if fault.oid == oid && fault.left != some 0 then
      some (fault.kind, { fault with left := fault.left.map (· - 1) } :: rest)
    else (strike oid rest).map fun (kind, faults) => (kind, fault :: faults)

def send (agent : Agent) (request : Request) (scene : AgentScene) : Reply × AgentScene :=
  let scene := { scene with log := request :: scene.log }
  if scene.cancelSoon && patience < scene.log.length then
    (.interrupted, { scene with cancelled := true })
  else
    match strike request.oid scene.faults with
    | none => (.bindings (agent.answer request), scene)
    | some (kind, faults) =>
      let scene := { scene with faults }
      match kind with
      | .drop => (.silence, scene)
      | .faulty reason => (.faulty reason, scene)
      | .cancel => (.interrupted, { scene with cancelled := true })
      | .cancelLater => (.silence, { scene with cancelSoon := true })

def link (agent : Agent) : Link AgentScene where
  send := agent.send
  pause scene := if scene.cancelSoon then { scene with cancelled := true } else scene

end Agent

/-- A link to an address where nothing listens. -/
def deadLink : Link AgentScene where
  send _ scene := (.faulty "Socket receive error", scene)
  pause scene := scene

end Snmp

end RouterPoll
