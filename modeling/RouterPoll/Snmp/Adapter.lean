import RouterPoll.Snmp.Session

/-!
# The SNMP adapter

What is read from the objects every router agent exposes: the system group, the load of the processors, the memory row of the storage table, and the table of interfaces. The description of the system is asked for first, and only its failure fails the poll; whatever fails after that is left out of the result.
-/

namespace RouterPoll

namespace Snmp

def adapterName : String := "snmp"

def sysDescr : Oid := [1, 3, 6, 1, 2, 1, 1, 1, 0]
def sysUptime : Oid := [1, 3, 6, 1, 2, 1, 1, 3, 0]
def sysName : Oid := [1, 3, 6, 1, 2, 1, 1, 5, 0]
def ifNumber : Oid := [1, 3, 6, 1, 2, 1, 2, 1, 0]

def ifDescr : Oid := [1, 3, 6, 1, 2, 1, 2, 2, 1, 2]
def ifAdminStatus : Oid := [1, 3, 6, 1, 2, 1, 2, 2, 1, 7]
def ifOperStatus : Oid := [1, 3, 6, 1, 2, 1, 2, 2, 1, 8]
def ifInOctets : Oid := [1, 3, 6, 1, 2, 1, 2, 2, 1, 10]
def ifOutOctets : Oid := [1, 3, 6, 1, 2, 1, 2, 2, 1, 16]

def hrProcessorLoad : Oid := [1, 3, 6, 1, 2, 1, 25, 3, 3, 1, 2]
def hrStorageType : Oid := [1, 3, 6, 1, 2, 1, 25, 2, 3, 1, 2]
def hrStorageUnits : Oid := [1, 3, 6, 1, 2, 1, 25, 2, 3, 1, 4]
def hrStorageSize : Oid := [1, 3, 6, 1, 2, 1, 25, 2, 3, 1, 5]
def hrStorageUsed : Oid := [1, 3, 6, 1, 2, 1, 25, 2, 3, 1, 6]
def hrStorageRam : String := "1.3.6.1.2.1.25.2.1.2"

def supportedMetrics : List String := [
  Metrics.systemDescription, Metrics.systemName, Metrics.uptimeSeconds, Metrics.interfaceCount,
  Metrics.cpuPercent, Metrics.memoryPercent, Metrics.memoryTotalMb, Metrics.memoryUsedMb,
  Metrics.memoryFreeMb, "interface_metrics"]

/-! ### Opening a session -/

def capability? (device : Device) : Option SnmpCapability :=
  (device.capabilities.bind (·.snmp)).filter (·.enabled)

/-- Whether the device has what its protocol version needs: a community, or a user name. -/
def canHandle (device : Device) : Bool :=
  match capability? device with
  | none => false
  | some capability =>
    match capability.version with
    | .v3 => capability.v3.any fun credentials => credentials.username != ""
    | _ => capability.community.any fun community => community.reveal != ""

def notConfigured (reason : String) : PollError := .notConfigured adapterName reason

def requireCapability (device : Device) : Except PollError SnmpCapability :=
  match capability? device with
  | some capability => .ok capability
  | none => .error (notConfigured "snmp capability missing or disabled")

def targetText (device : Device) (capability : SnmpCapability) : String :=
  device.managementIp.hostText ++ ":" ++ Text.natText capability.port

/-- A session for a device; it needs no exchange, and version 3 is not spoken. -/
def openSession (settings : TransportSettings) (device : Device) (capability : SnmpCapability)
    (isCancelled : Bool) : Except PollError Session :=
  match capability.version with
  | .v3 => .error (.unsupportedVersion adapterName capability.version.text)
  | version =>
    if capability.community.isNone then .error (notConfigured "community string missing")
    else if isCancelled then .error .cancelled
    else .ok {
      target := targetText device capability
      bulk := version != .v1
      timeoutMs := settings.timeoutFor capability.timeoutSecs
      retries := capability.retries.getD settings.retries }

/-! ### What the answers add to a result -/

/-- What a request gave, if it did not fail. -/
def given? : Except PollError (Option α) → Option α
  | .ok value => value
  | .error _ => none

/-- Uptime in seconds from hundredths of a second. -/
def uptime? (ticks : Option MetricValue) : Option MetricValue :=
  (ticks.bind MetricValue.asInteger?).map fun ticks => .integer (ticks.tdiv 100)

def mean? (values : List Float) : Option Float :=
  if values.isEmpty then none
  else some (values.foldl (· + ·) 0.0 / Decimal.ofNat values.length)

/-- The mean load of the processors. -/
def cpuPercent? (rows : List Row) : Option MetricValue :=
  (mean? (rows.filterMap fun row => row.2.asFloat?)).map .float

/-- The index of the first memory row of the storage table. -/
def ramIndex? (rows : List Row) : Option Nat :=
  (rows.find? fun row => row.2.asText? == some hrStorageRam).map (·.1)

def mebibyte : Int := 1024 * 1024

/-- The metrics of a memory row, from the size of its units, its size and the part in use. -/
def memoryMetrics (units size used : Int) : List (String × MetricValue) :=
  let total := (size * units).tdiv mebibyte
  let inUse := (used * units).tdiv mebibyte
  [(Metrics.memoryTotalMb, .integer total),
    (Metrics.memoryUsedMb, .integer inUse),
    (Metrics.memoryFreeMb, .integer (total - inUse)),
    (Metrics.memoryPercent, .float (Decimal.ofInt used / Decimal.ofInt size * 100.0))]

/-- The memory metrics, when all three cells are numbers and the size is not zero. -/
def memoryOf (units size used : Except PollError (Option Int)) : List (String × MetricValue) :=
  match given? units, given? size, given? used with
  | some units, some size, some used => if 0 < size then memoryMetrics units size used else []
  | _, _, _ => []

/-- An interface as its description row shows it, with nothing known yet about its state. -/
def interfaceOf (row : Row) : InterfaceStatus where
  name := row.2.shown
  index := if row.1 < Text.limit32 then some row.1 else none
  operUp := false
  adminUp := false
  rxBytes := 0
  txBytes := 0
  rxPackets := 0
  txPackets := 0

/-- One column of the interface table: what the number in a row says about its interface. -/
structure Column where
  oid : Oid
  apply : Int → InterfaceStatus → InterfaceStatus

def adminColumn : Column :=
  ⟨ifAdminStatus, fun value status => { status with adminUp := value == 1 }⟩
def operColumn : Column := ⟨ifOperStatus, fun value status => { status with operUp := value == 1 }⟩
def inColumn : Column := ⟨ifInOctets, fun value status => { status with rxBytes := value.toNat }⟩
def outColumn : Column := ⟨ifOutOctets, fun value status => { status with txBytes := value.toNat }⟩

def columns : List Column := [adminColumn, operColumn, inColumn, outColumn]

/-- Applies a row to the first interface with its index. -/
def applyRow (column : Column) (row : Row) : List InterfaceStatus → List InterfaceStatus
  | [] => []
  | status :: rest =>
    if status.index == some row.1 then
      column.apply (row.2.asInteger?.getD 0) status :: rest
    else status :: applyRow column row rest

def applyRows (column : Column) (rows : List Row) (interfaces : List InterfaceStatus) :
    List InterfaceStatus :=
  rows.foldl (fun interfaces row => applyRow column row interfaces) interfaces

/-- A column that could not be read says nothing. -/
def applyColumn (column : Column) (rows : Except PollError (List Row))
    (interfaces : List InterfaceStatus) : List InterfaceStatus :=
  match rows with
  | .ok rows => applyRows column rows interfaces
  | .error _ => interfaces

/-- The result with its interfaces, whose number counts unless the agent gave one. -/
def withInterfaces (interfaces : List InterfaceStatus) (result : PollResult) : PollResult :=
  let metrics :=
    if result.metrics.contains Metrics.interfaceCount then result.metrics
    else result.metrics.set Metrics.interfaceCount (.ofNat interfaces.length)
  { result with metrics, interfaces }

/-! ### Polling -/

section

variable {ε : Type} [Surroundings ε]

/-- Steps of a poll over a link, any of which may never end. -/
abbrev Steps (ε : Type) := StateT ε Option

def get (session : Session) (link : Link ε) (oid : Oid) :
    Steps ε (Except PollError (Option MetricValue)) :=
  fun env => some (session.get link oid env)

def getCell (session : Session) (link : Link ε) (column : Oid) (index : Nat) :
    Steps ε (Except PollError (Option Int)) :=
  fun env => some (session.getCell link column index env)

def walk (session : Session) (link : Link ε) (root : Oid) :
    Steps ε (Except PollError (List Row)) :=
  session.walk link root

def collectSystem (session : Session) (link : Link ε) (result : PollResult) :
    Steps ε PollResult := do
  let name ← get session link sysName
  let ticks ← get session link sysUptime
  let count ← get session link ifNumber
  let metrics := ((result.metrics.setIf Metrics.systemName (given? name)).setIf
    Metrics.uptimeSeconds (uptime? (given? ticks))).setIf Metrics.interfaceCount (given? count)
  return { result with metrics }

def collectCpu (session : Session) (link : Link ε) (result : PollResult) : Steps ε PollResult := do
  match ← walk session link hrProcessorLoad with
  | .ok rows =>
    return { result with metrics := result.metrics.setIf Metrics.cpuPercent (cpuPercent? rows) }
  | .error _ => return result

def collectMemory (session : Session) (link : Link ε) (result : PollResult) :
    Steps ε PollResult := do
  match ← walk session link hrStorageType with
  | .error _ => return result
  | .ok rows =>
    match ramIndex? rows with
    | none => return result
    | some index =>
      let units ← getCell session link hrStorageUnits index
      let size ← getCell session link hrStorageSize index
      let used ← getCell session link hrStorageUsed index
      return { result with metrics := result.metrics.setAll (memoryOf units size used) }

/-- Reads columns one after the other and joins each to the interfaces. -/
def collectColumns (session : Session) (link : Link ε) :
    List Column → List InterfaceStatus → Steps ε (List InterfaceStatus)
  | [], interfaces => return interfaces
  | column :: rest, interfaces => do
    let rows ← walk session link column.oid
    collectColumns session link rest (applyColumn column rows interfaces)

def collectInterfaces (session : Session) (link : Link ε) (result : PollResult) :
    Steps ε PollResult := do
  match ← walk session link ifDescr with
  | .error _ => return result
  | .ok rows =>
    let interfaces ← collectColumns session link columns (rows.map interfaceOf)
    return withInterfaces interfaces result

/-- Everything after the description of the system. -/
def collect (session : Session) (link : Link ε) (result : PollResult) : Steps ε PollResult := do
  let result ← collectSystem session link result
  let result ← collectCpu session link result
  let result ← collectMemory session link result
  collectInterfaces session link result

def poll (link : Link ε) (settings : TransportSettings) (device : Device) (env : ε) :
    Attempt × ε :=
  let result := PollResult.start device adapterName (Surroundings.now env)
  let refused (error : PollError) (env : ε) : Attempt × ε :=
    (.refused (SessionFailure.of error result (Surroundings.now env)), env)
  match requireCapability device with
  | .error error => refused error env
  | .ok capability =>
    match openSession settings device capability (Surroundings.isCancelled env) with
    | .error error => refused error env
    | .ok session =>
      let (answer, env) := session.get link sysDescr env
      match answer with
      | .error error => refused error env
      | .ok description =>
        let metrics := result.metrics.setIf Metrics.systemDescription description
        match (collect session link { result with metrics }).run env with
        | some (result, env) => (.answered (result.conclude env), env)
        | none => (.stalled, env)

def checkHealth (link : Link ε) (settings : TransportSettings) (device : Device) (env : ε) :
    Except PollError Unit × ε :=
  match requireCapability device with
  | .error error => (.error error, env)
  | .ok capability =>
    match openSession settings device capability (Surroundings.isCancelled env) with
    | .error error => (.error error, env)
    | .ok session =>
      let (answer, env) := session.get link sysDescr env
      (answer.map fun _ => (), env)

/-- The SNMP adapter over a link. -/
def adapter (link : Link ε) (settings : TransportSettings) : Adapter ε where
  name := adapterName
  method := .snmp
  canHandle device := some (canHandle device)
  poll := poll link settings
  checkHealth := checkHealth link settings
  supportedMetrics := supportedMetrics

end

end Snmp

end RouterPoll
