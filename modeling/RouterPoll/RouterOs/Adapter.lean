import RouterPoll.RouterOs.Resource
import RouterPoll.RouterOs.Rest

/-!
# The RouterOS adapter

What is read from the resources of a RouterOS device: what the system says about itself, the table of interfaces, and the tables that belong to the roles of the device. The system resource is asked for first, and only its failure fails the poll; a table that can not be read is left out of the result.
-/

namespace RouterPoll

namespace RouterOs

def adapterName : String := "mikrotik_api"

def kind : String := "mikrotik"

def resourcePath : String := "/rest/system/resource"
def interfacePath : String := "/rest/interface"
def pppoePath : String := "/rest/ppp/active"
def connectionPath : String := "/rest/ip/firewall/connection"
def leasePath : String := "/rest/ip/dhcp-server/lease"

def supportedMetrics : List String := [
  Metrics.cpuPercent, Metrics.memoryPercent, Metrics.memoryTotalMb, Metrics.memoryUsedMb,
  Metrics.memoryFreeMb, Metrics.uptimeSeconds, Metrics.boardName, Metrics.firmwareVersion,
  Metrics.interfaceCount, "interface_metrics", "pppoe_sessions", "nat_sessions", "dhcp_leases"]

/-- How many tracked connections a result keeps. -/
def maxNatSessions : Nat := 5000

/-! ### Opening a session -/

def isKind (text : String) : Bool := text.map Char.toLower == kind

def capability? (device : Device) : Option ApiCapability :=
  (device.capabilities.bind (·.api)).filter fun api => api.enabled && isKind api.kind

/-- Whether the device is of this kind and there is a user name for it. -/
def canHandle (device : Device) : Bool :=
  (capability? device).any fun capability => capability.username != ""

/-- The address that the paths of resources are put after. -/
def baseUrl (device : Device) (capability : ApiCapability) : String :=
  match capability.endpoint with
  | some endpoint => String.ofList (Text.dropEndWhile (· == '/') endpoint.toList)
  | none =>
    let scheme := if capability.useTls then "https" else "http"
    let port := capability.port.getD (if capability.useTls then 443 else 80)
    scheme ++ "://" ++ device.managementIp.hostText ++ ":" ++ Text.natText port

def openSession (settings : TransportSettings) (device : Device) : Except PollError Session :=
  match capability? device with
  | none =>
    .error (.notConfigured adapterName "mikrotik api capability missing or disabled")
  | some capability =>
    .ok {
      baseUrl := baseUrl device capability
      username := capability.username
      password := capability.password
      verifyCert := capability.verifyCert
      timeoutMs := settings.timeoutFor capability.timeoutSecs }

/-! ### What the tables add to a result -/

/-- A table by its rows; there are none if the table was not asked for or could not be read. -/
abbrev Table := Option (List Json)

def addInterfaces (table : Table) (result : PollResult) : PollResult :=
  match table with
  | none => result
  | some rows =>
    let interfaces := rows.filterMap interface?
    { result with
      interfaces
      metrics := result.metrics.set Metrics.interfaceCount (.ofNat interfaces.length) }

def addPppoe (table : Table) (result : PollResult) : PollResult :=
  match table with
  | none => result
  | some rows =>
    let pppoeSessions := rows.filterMap pppoe?
    { result with
      pppoeSessions
      metrics := result.metrics.set Metrics.pppoeActiveSessions (.ofNat pppoeSessions.length) }

/-- Every row of the connection table counts, also those that are not kept. -/
def addNat (table : Table) (result : PollResult) : PollResult :=
  match table with
  | none => result
  | some rows =>
    { result with
      natSessions := (rows.filterMap nat?).take maxNatSessions
      metrics := result.metrics.set Metrics.natTotalSessions (.ofNat rows.length) }

def addLeases (table : Table) (result : PollResult) : PollResult :=
  match table with
  | none => result
  | some rows =>
    let dhcpLeases := rows.filterMap lease?
    { result with
      dhcpLeases
      metrics := result.metrics.set Metrics.dhcpLeaseCount (.ofNat dhcpLeases.length) }

/-! ### Polling -/

section

variable {ε : Type} [Surroundings ε]

/-- The table at a path, if it is asked for at all. -/
def tableIf (asked : Bool) (session : Session) (link : Link ε) (path : String) (env : ε) :
    Table × ε :=
  if asked then
    let (rows, env) := session.get link rowsOf path env
    (rows.toOption, env)
  else (none, env)

/-- Everything after the system resource. -/
def collect (session : Session) (link : Link ε) (device : Device) (result : PollResult) (env : ε) :
    PollResult × ε :=
  let (interfaces, env) := tableIf true session link interfacePath env
  let (pppoe, env) := tableIf (device.hasRole Role.pppoeServer) session link pppoePath env
  let (nat, env) := tableIf (device.hasRole Role.natGateway) session link connectionPath env
  let (leases, env) := tableIf (device.hasRole Role.dhcpServer) session link leasePath env
  (addLeases leases (addNat nat (addPppoe pppoe (addInterfaces interfaces result))), env)

def systemResource : Payload SystemResource := fun document =>
  (Decode.readDocument SystemResource.read document).toOption

def poll (link : Link ε) (settings : TransportSettings) (device : Device) (env : ε) :
    Attempt × ε :=
  let result := PollResult.start device adapterName (Surroundings.now env)
  let refused (error : PollError) (env : ε) : Attempt × ε :=
    (.refused (SessionFailure.of error result (Surroundings.now env)), env)
  match openSession settings device with
  | .error error => refused error env
  | .ok session =>
    let (resource, env) := session.get link systemResource resourcePath env
    match resource with
    | .error error => refused error env
    | .ok resource =>
      let result := { result with metrics := resource.addTo result.metrics }
      let (result, env) := collect session link device result env
      (.answered (result.conclude env), env)

def checkHealth (link : Link ε) (settings : TransportSettings) (device : Device) (env : ε) :
    Except PollError Unit × ε :=
  match openSession settings device with
  | .error error => (.error error, env)
  | .ok session =>
    let (answer, env) := session.get link anyDocument resourcePath env
    (answer.map fun _ => (), env)

/-- The RouterOS adapter over a link. -/
def adapter (link : Link ε) (settings : TransportSettings) : Adapter ε where
  name := adapterName
  method := .api
  canHandle device := some (canHandle device)
  poll := poll link settings
  checkHealth := checkHealth link settings
  supportedMetrics := supportedMetrics

end

end RouterOs

end RouterPoll
