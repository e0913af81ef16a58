import RouterPoll.Proofs.Poll.Lookup
import RouterPoll.Proofs.Store.Memory
import RouterPoll.RouterOs.Adapter
import RouterPoll.RouterOs.Service

/-!
# The parts of a RouterOS poll

After the system resource a poll reads up to four tables, each for a part of the result of its own: a list of entries and a metric that counts them. A part is asked for if the device has the role that goes with it. A table that could not be read leaves its part empty and uncounted, and says nothing about the other parts.
-/

namespace RouterPoll

namespace RouterOs

/-- The parts of a result that are read from tables. -/
inductive Part where
  | interfaces
  | pppoe
  | nat
  | leases
  deriving DecidableEq

namespace Part

def all : List Part := [interfaces, pppoe, nat, leases]

def path : Part → String
  | interfaces => interfacePath
  | pppoe => pppoePath
  | nat => connectionPath
  | leases => leasePath

/-- The role that goes with a part; every device is asked for its interfaces. -/
def role? : Part → Option String
  | interfaces => none
  | pppoe => some Role.pppoeServer
  | nat => some Role.natGateway
  | leases => some Role.dhcpServer

def isAsked (device : Device) (part : Part) : Bool := part.role?.all device.hasRole

def count : Part → String
  | interfaces => Metrics.interfaceCount
  | pppoe => Metrics.pppoeActiveSessions
  | nat => Metrics.natTotalSessions
  | leases => Metrics.dhcpLeaseCount

def Entry : Part → Type
  | interfaces => InterfaceStatus
  | pppoe => PppoeSession
  | nat => NatSession
  | leases => DhcpLease

/-- The entries that the rows of a table hold, in their order; of connections only the first 5000 are kept. -/
def entriesOf : (part : Part) → List Json → List part.Entry
  | interfaces, rows => rows.filterMap interface?
  | pppoe, rows => rows.filterMap pppoe?
  | nat, rows => (rows.filterMap nat?).take 5000
  | leases, rows => rows.filterMap lease?

/-- How much a table counts: its entries, and for connections all of its rows. -/
def sizeOf : (part : Part) → List Json → Nat
  | nat, rows => rows.length
  | part, rows => (part.entriesOf rows).length

def entries : (part : Part) → PollResult → List part.Entry
  | interfaces, result => result.interfaces
  | pppoe, result => result.pppoeSessions
  | nat, result => result.natSessions
  | leases, result => result.dhcpLeases

def add : Part → Table → PollResult → PollResult
  | interfaces => addInterfaces
  | pppoe => addPppoe
  | nat => addNat
  | leases => addLeases

theorem count_injective : Function.Injective count := by
  intro left right hcount
  cases left <;> cases right <;> first | rfl | exact absurd hcount (by decide)

/-! ### What a table adds -/

variable (part : Part) {other : Part} (table : Table) (result : PollResult)

theorem entries_add : part.entries (part.add table result)
    = (table.map part.entriesOf).getD (part.entries result) := by
  cases part <;> cases table <;> rfl

theorem entries_add_of_ne (hother : other ≠ part) : other.entries (part.add table result) = other.entries result := by
  cases part <;> cases other <;> first | exact absurd rfl hother | cases table <;> rfl

theorem metrics_add : (part.add table result).metrics
    = result.metrics.setIf part.count (table.map fun rows => .ofNat (part.sizeOf rows)) := by
  cases part <;> cases table <;> rfl

def rest (result : PollResult) : PollResult :=
  { result with metrics := .empty, interfaces := [], pppoeSessions := [], natSessions := [], dhcpLeases := [] }

theorem rest_add : rest (part.add table result) = rest result := by
  cases part <;> cases table <;> rfl

end Part

/-! ### What all tables add -/

section

variable (tables : Part → Table) (result : PollResult)

def report : PollResult := Part.all.foldl (fun result part => part.add (tables part) result) result

theorem entries_report (part : Part) :
    part.entries (report tables result) = ((tables part).map part.entriesOf).getD (part.entries result) := by
  cases part <;> simp only [report, Part.all, List.foldl_cons, List.foldl_nil, Part.entries_add, ne_eq, reduceCtorEq,
    not_false_eq_true, Part.entries_add_of_ne]

theorem rest_report : Part.rest (report tables result) = Part.rest result := by
  simp only [report, Part.all, List.foldl_cons, List.foldl_nil, Part.rest_add]

theorem get?_report_of_forall_ne {name : String} (hname : ∀ part : Part, name ≠ part.count) :
    (report tables result).metrics.get? name = result.metrics.get? name := by
  simp only [report, Part.all, List.foldl_cons, List.foldl_nil, Part.metrics_add,
    Metrics.get?_setIf_of_ne (hname _)]

theorem get?_report_count (part : Part) : (report tables result).metrics.get? part.count
    = ((tables part).map fun rows => .ofNat (part.sizeOf rows)).or (result.metrics.get? part.count) := by
  cases part <;> simp only [report, Part.all, List.foldl_cons, List.foldl_nil, Part.metrics_add,
    Metrics.get?_setIf_self, ne_eq, Part.count_injective.eq_iff, reduceCtorEq, not_false_eq_true, Metrics.get?_setIf_of_ne]

end

/-! ### Asking for the tables -/

abbrev Answer := Part × Except PollError (List Json)

/-- The table of a part among the answers: none if it was not asked for or could not be read. -/
def tableOf (answers : List Answer) (part : Part) : Table := (answers.lookup part).bind Except.toOption

theorem tableOf_nil (part : Part) : tableOf [] part = none := rfl

theorem tableOf_cons_self (part : Part) (rows : Except PollError (List Json)) (answers : List Answer) :
    tableOf ((part, rows) :: answers) part = rows.toOption := by
  rw [tableOf, List.lookup_cons_self, Option.bind_some]

theorem tableOf_cons_of_ne {part other : Part} (hother : other ≠ part) (rows : Except PollError (List Json))
    (answers : List Answer) : tableOf ((part, rows) :: answers) other = tableOf answers other := by
  rw [tableOf, List.lookup_cons, beq_eq_false_iff_ne.2 hother, tableOf]

section

variable {ε : Type} [Surroundings ε]

def ask (session : Session) (link : Link ε) : List Part → ε → List Answer × ε
  | [], env => ([], env)
  | part :: parts, env =>
    let (rows, env) := session.get link rowsOf part.path env
    let (answers, env) := ask session link parts env
    ((part, rows) :: answers, env)

theorem ask_cons (session : Session) (link : Link ε) (part : Part) (parts : List Part) (env : ε) :
    ask session link (part :: parts) env
      = ((part, (session.get link rowsOf part.path env).1)
            :: (ask session link parts (session.get link rowsOf part.path env).2).1,
          (ask session link parts (session.get link rowsOf part.path env).2).2) := rfl

theorem tableIf_true (session : Session) (link : Link ε) (path : String) (env : ε) :
    tableIf true session link path env
      = ((session.get link rowsOf path env).1.toOption, (session.get link rowsOf path env).2) := rfl

theorem tableIf_false (session : Session) (link : Link ε) (path : String) (env : ε) :
    tableIf false session link path env = (none, env) := rfl

/-- A poll asks for the tables of the roles of the device, and puts what they say together. -/
theorem collect_eq (session : Session) (link : Link ε) (device : Device) (result : PollResult) (env : ε) :
    collect session link device result env
      = (report (tableOf (ask session link (Part.all.filter (·.isAsked device)) env).1) result,
          (ask session link (Part.all.filter (·.isAsked device)) env).2) := by
  have hinterfaces : Part.interfaces.isAsked device = true := rfl
  have hpppoe : Part.pppoe.isAsked device = device.hasRole Role.pppoeServer := rfl
  have hnat : Part.nat.isAsked device = device.hasRole Role.natGateway := rfl
  have hleases : Part.leases.isAsked device = device.hasRole Role.dhcpServer := rfl
  -- which tables are asked for depends on the three roles only
  simp only [collect, report, Part.all, List.filter_cons, List.filter_nil, hinterfaces, hpppoe, hnat, hleases]
  cases device.hasRole Role.pppoeServer <;> cases device.hasRole Role.natGateway <;>
    cases device.hasRole Role.dhcpServer <;>
      simp [tableIf_true, tableIf_false, ask_cons, ask, tableOf_cons_self, tableOf_cons_of_ne, tableOf_nil, Part.add,
        Part.path]

end

/-! ### The result of a poll -/

def outcome (device : Device) (resource : SystemResource) (started ended : Instant) (tables : Part → Table) :
    PollResult :=
  (report tables { PollResult.start device adapterName started with metrics := resource.addTo .empty }).succeed ended

/-- What a result says when the system resource could be read: it is a success, each part holds what its own table says, and the other metrics are those of the system. -/
structure Reports (resource : SystemResource) (tables : Part → Table) (result : PollResult) : Prop where
  success : result.success = true
  error : result.error = none
  cancelled : result.cancelled = false
  entries : ∀ part : Part, part.entries result = ((tables part).map part.entriesOf).getD []
  count : ∀ part : Part,
    result.metrics.get? part.count = (tables part).map fun rows => .ofNat (part.sizeOf rows)
  others : ∀ name, (∀ part : Part, name ≠ part.count) →
    result.metrics.get? name = (resource.addTo .empty).get? name

section

variable (device : Device) (resource : SystemResource) (started ended : Instant) (tables : Part → Table)

def systemNames : List String := [
  Metrics.cpuPercent, Metrics.memoryTotalMb, Metrics.memoryFreeMb, Metrics.memoryUsedMb, Metrics.memoryPercent,
  Metrics.uptimeSeconds, Metrics.boardName, Metrics.firmwareVersion]

theorem mem_systemNames_of_mem_memory {resource : SystemResource} {entry : String × MetricValue}
    (hmem : entry ∈ resource.memory) : entry.1 ∈ systemNames := by
  unfold SystemResource.memory at hmem
  split at hmem
  · unfold SystemResource.memoryMetrics at hmem
    split at hmem
    · cases hmem
    · simp only [List.mem_cons, List.not_mem_nil, or_false] at hmem
      obtain rfl | rfl | rfl | rfl := hmem <;> simp [systemNames]
  · cases hmem

theorem get?_addTo_of_not_mem (metrics : Metrics) {name : String} (hname : name ∉ systemNames) :
    (resource.addTo metrics).get? name = metrics.get? name := by
  have hne : ∀ known ∈ systemNames, name ≠ known := fun known hknown heq => hname (heq ▸ hknown)
  rw [SystemResource.addTo, Metrics.get?_setIf_of_ne, Metrics.get?_setIf_of_ne, Metrics.get?_setIf_of_ne,
    Metrics.get?_setAll_of_forall_ne, Metrics.get?_setIf_of_ne]
  · exact hne _ (by simp [systemNames])
  · exact fun entry hmem => (hne _ (mem_systemNames_of_mem_memory hmem)).symm
  all_goals exact hne _ (by simp [systemNames])

theorem count_not_mem_systemNames (part : Part) : part.count ∉ systemNames := by
  cases part <;> decide

theorem entries_succeed (part : Part) (result : PollResult) :
    part.entries (result.succeed ended) = part.entries result := by
  cases part <;> rfl

theorem reports_outcome : Reports resource tables (outcome device resource started ended tables) where
  success := rfl
  error := rfl
  cancelled := congrArg PollResult.cancelled (rest_report tables _)
  entries part := by
    rw [outcome, entries_succeed, entries_report]
    cases part <;> rfl
  count part := by
    refine (get?_report_count tables _ part).trans ?_
    rw [get?_addTo_of_not_mem resource _ (count_not_mem_systemNames part), Metrics.get?_empty, Option.or_none]
  others _ hname := get?_report_of_forall_ne tables _ hname

end

/-! ### Polls -/

section

variable {ε : Type} [Surroundings ε] {link : Link ε} {settings : TransportSettings} {device : Device} {env after : ε}
  {session : Session}

end

def gatewayAccess : ApiCapability :=
  ⟨true, kind, some "http://[2001:db8::1]:8728", none, "admin", ⟨"secret"⟩, false, false, none⟩

/-- A router that translates addresses, so that its connections are asked for. -/
def gateway : Device :=
  { Device.sample 1 with
    capabilities := some {
      snmp := none, ssh := none, api := some gatewayAccess, preferredMethod := none, fallbackOrder := [] }
    roles := [⟨Role.natGateway, none, 0, true⟩] }

end RouterOs

end RouterPoll
