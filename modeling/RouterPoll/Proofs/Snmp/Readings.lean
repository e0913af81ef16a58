import Mathlib.Logic.Function.Basic
import RouterPoll.Proofs.Poll.Lookup
import RouterPoll.Snmp.Adapter

/-!
# Readings of an agent

After the description of the system a poll sends a dozen queries, and none of them is needed for the others to count: each gives a reading or none, whether it failed, was not answered in time or had nothing to say. The result is a function of these readings, in which every metric has its own few queries. Two queries share a metric: the number of interfaces is the one the agent gives, and only without it the number of descriptions.
-/

namespace RouterPoll

namespace Snmp

/-- What is asked of an agent after the description of the system. -/
inductive Query where
  | systemName
  | uptime
  | interfaceCount
  | processorLoads
  | storageTypes
  | storageUnits
  | storageSize
  | storageUsed
  | descriptions
  | adminStatus
  | operStatus
  | inOctets
  | outOctets
  deriving DecidableEq

namespace Query

/-- What a query reads: a value, a number in a cell, or the rows of a column. -/
abbrev Value : Query → Type
  | systemName => MetricValue
  | uptime => MetricValue
  | interfaceCount => MetricValue
  | storageUnits => Int
  | storageSize => Int
  | storageUsed => Int
  | _ => List Row

end Query

/-- What the queries gave: nothing for a query that failed, was not answered with a value, or was not sent. -/
abbrev Readings := (query : Query) → Option query.Value

def Readings.ramRow? (readings : Readings) : Option Nat :=
  (((readings .storageTypes).getD []).find? fun row => row.2 = .text "1.3.6.1.2.1.25.2.1.2").map (·.1)

theorem Readings.ramRow?_eq (readings : Readings) : readings.ramRow? = (readings .storageTypes).bind ramIndex? := by
  have hsame : (fun row : Row => decide (row.2 = .text "1.3.6.1.2.1.25.2.1.2"))
      = fun row => row.2.asText? == some hrStorageRam := by
    funext row
    cases row.2 <;> simp [MetricValue.asText?, hrStorageRam, beq_eq_decide]
  rw [ramRow?, hsame]
  cases readings .storageTypes <;> rfl

/-! ### What the readings add to a result -/

def memoryFrom (types : Option (List Row)) (units size used : Option Int) : List (String × MetricValue) :=
  match types.bind ramIndex? with
  | none => []
  | some _ => memoryOf (.ok units) (.ok size) (.ok used)

/-- The described interfaces, with what the other columns say about them. -/
def interfacesFrom (rows : List Row) (admin oper received sent : Option (List Row)) : List InterfaceStatus :=
  applyRows outColumn (sent.getD []) (applyRows inColumn (received.getD [])
    (applyRows operColumn (oper.getD []) (applyRows adminColumn (admin.getD []) (rows.map interfaceOf))))

namespace Readings

variable (readings : Readings) (result : PollResult)

def addSystem : PollResult :=
  { result with
    metrics := ((result.metrics.setIf Metrics.systemName (readings .systemName)).setIf
      Metrics.uptimeSeconds (uptime? (readings .uptime))).setIf Metrics.interfaceCount (readings .interfaceCount) }

def addCpu : PollResult :=
  { result with
    metrics := result.metrics.setIf Metrics.cpuPercent ((readings .processorLoads).bind cpuPercent?) }

def memory : List (String × MetricValue) :=
  memoryFrom (readings .storageTypes) (readings .storageUnits) (readings .storageSize) (readings .storageUsed)

def addMemory : PollResult := { result with metrics := result.metrics.setAll readings.memory }

def interfacesOf (rows : List Row) : List InterfaceStatus :=
  interfacesFrom rows (readings .adminStatus) (readings .operStatus) (readings .inOctets) (readings .outOctets)

def addInterfaces : PollResult :=
  match readings .descriptions with
  | none => result
  | some rows => withInterfaces (readings.interfacesOf rows) result

def addTo : PollResult :=
  readings.addInterfaces (readings.addMemory (readings.addCpu (readings.addSystem result)))

end Readings

/-! ### Sending the queries -/

section

variable {ε : Type} [Surroundings ε] (session : Session) (link : Link ε)

def readMemory : Option Nat → Steps ε (Option Int × Option Int × Option Int)
  | none => return (none, none, none)
  | some index => do
    let units ← getCell session link hrStorageUnits index
    let size ← getCell session link hrStorageSize index
    let used ← getCell session link hrStorageUsed index
    return (given? units, given? size, given? used)

def readColumns : Option (List Row) →
    Steps ε (Option (List Row) × Option (List Row) × Option (List Row) × Option (List Row))
  | none => return (none, none, none, none)
  | some _ => do
    let admin ← walk session link ifAdminStatus
    let oper ← walk session link ifOperStatus
    let received ← walk session link ifInOctets
    let sent ← walk session link ifOutOctets
    return (admin.toOption, oper.toOption, received.toOption, sent.toOption)

def read : Steps ε Readings := do
  let name ← get session link sysName
  let ticks ← get session link sysUptime
  let count ← get session link ifNumber
  let loads ← walk session link hrProcessorLoad
  let types ← walk session link hrStorageType
  let (units, size, used) ← readMemory session link (types.toOption.bind ramIndex?)
  let rows ← walk session link ifDescr
  let (admin, oper, received, sent) ← readColumns session link rows.toOption
  return fun
    | .systemName => given? name
    | .uptime => given? ticks
    | .interfaceCount => given? count
    | .processorLoads => loads.toOption
    | .storageTypes => types.toOption
    | .storageUnits => units
    | .storageSize => size
    | .storageUsed => used
    | .descriptions => rows.toOption
    | .adminStatus => admin
    | .operStatus => oper
    | .inOctets => received
    | .outOctets => sent

variable (result : PollResult)

theorem collectCpu_eq : collectCpu session link result = do
    let loads ← walk session link hrProcessorLoad
    return { result with
      metrics := result.metrics.setIf Metrics.cpuPercent (loads.toOption.bind cpuPercent?) } := by
  refine bind_congr fun loads => ?_
  cases loads <;> rfl

theorem collectMemory_eq : collectMemory session link result = do
    let types ← walk session link hrStorageType
    let (units, size, used) ← readMemory session link (types.toOption.bind ramIndex?)
    return { result with
      metrics := result.metrics.setAll (memoryFrom types.toOption units size used) } := by
  refine bind_congr fun types => ?_
  cases types with
  | error error => rfl
  | ok rows =>
      dsimp only [Except.toOption, memoryFrom, Option.bind_some]
      cases ramIndex? rows with
      | none => rfl
      | some index =>
          simp only [readMemory, bind_assoc, pure_bind]
          rfl

theorem collectInterfaces_eq : collectInterfaces session link result = do
    let rows ← walk session link ifDescr
    let (admin, oper, received, sent) ← readColumns session link rows.toOption
    return match rows.toOption with
      | none => result
      | some rows => withInterfaces (interfacesFrom rows admin oper received sent) result := by
  have happly : ∀ (column : Column) (rows : Except PollError (List Row)) (interfaces : List InterfaceStatus),
      applyColumn column rows interfaces = applyRows column (rows.toOption.getD []) interfaces := by
    intro column rows interfaces
    cases rows <;> rfl
  refine bind_congr fun rows => ?_
  cases rows with
  | error error => rfl
  | ok rows =>
      simp only [readColumns, collectColumns, columns, bind_assoc, pure_bind, happly, Except.toOption]
      rfl

theorem collect_eq :
    collect session link result = (fun readings => readings.addTo result) <$> read session link := by
  simp only [collect, collectSystem, collectCpu_eq, collectMemory_eq, collectInterfaces_eq, read, bind_assoc, pure_bind,
    map_bind, map_pure]
  rfl

end

end Snmp

end RouterPoll
