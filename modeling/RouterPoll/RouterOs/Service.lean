import RouterPoll.RouterOs.Rest

/-!
# Described services

A router's web service that is given by a description instead of being reached: where it listens, and how it treats a request for each target it knows. It keeps a log of the requests it got.
-/

namespace RouterPoll

namespace RouterOs

/-- How a service treats a request. -/
inductive Treatment where
  | answer (status : Nat) (body : List UInt8)
  | hang
  | close
  | cancel
  deriving DecidableEq

structure Service where
  host : String
  port : Nat
  routes : List (String × Treatment)
  deriving DecidableEq

/-- A service among surroundings that it can change: requests got so far, newest first. -/
structure ServiceScene where
  cancelled : Bool
  now : Instant
  log : List Request
  deriving DecidableEq

instance : Surroundings ServiceScene where
  isCancelled := ServiceScene.cancelled
  now := ServiceScene.now

namespace Service

/-- Whether a URL leads to the service, which speaks without encryption only. -/
def isAt (service : Service) (url : Url) : Bool :=
  url.scheme == "http" && url.host == some service.host && url.port == some service.port

/-- What is done with a request for a target; an unknown one is not found. -/
def treatment (service : Service) (target : String) : Treatment :=
  (service.routes.lookup target).getD (.answer 404 [])

/-- Whether an answer with a status is the last word on a request: the status has three digits, and does not only announce another one. -/
def isFinal (status : Nat) : Bool := status == 101 || (200 ≤ status && status ≤ 999)

/-- An answer as it is heard: some statuses never have a body, and after one that is not final the connection just ends. -/
def heard (status : Nat) (body : List UInt8) : Reply :=
  if isFinal status then .answer status (if status == 204 || status == 304 then [] else body)
  else .broken

def fetch (service : Service) (request : Request) (scene : ServiceScene) : Reply × ServiceScene :=
  if !service.isAt request.url then (.refused, scene)
  else
    let scene := { scene with log := request :: scene.log }
    match service.treatment request.url.target with
    | .answer status body => (heard status body, scene)
    | .hang => (.silence, scene)
    | .close => (.broken, scene)
    | .cancel => (.interrupted, { scene with cancelled := true })

def link (service : Service) : Link ServiceScene where
  fetch := service.fetch

end Service

/-- A link to addresses where nothing listens. -/
def deadLink : Link ServiceScene where
  fetch _ scene := (.refused, scene)

end RouterOs

end RouterPoll
