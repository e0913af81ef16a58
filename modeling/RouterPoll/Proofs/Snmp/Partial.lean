import RouterPoll.Proofs.Poll.Lookup
import RouterPoll.Proofs.Snmp.Replies
import RouterPoll.Proofs.Store.Memory

/-!
# The parts of an SNMP poll

What the result of a poll says by the readings it was made from: every metric is there exactly when its own queries gave what it takes, whatever came of the others. The metrics of the memory take four queries and are there together or not at all; the number of interfaces has two sources, of which the second only counts without the first.
-/

namespace RouterPoll

namespace Snmp

namespace Query

def memoryNames : List String :=
  [Metrics.memoryTotalMb, Metrics.memoryUsedMb, Metrics.memoryFreeMb, Metrics.memoryPercent]

def metrics : Query → List String
  | systemName => [Metrics.systemName]
  | uptime => [Metrics.uptimeSeconds]
  | interfaceCount => [Metrics.interfaceCount]
  | processorLoads => [Metrics.cpuPercent]
  | storageTypes => memoryNames
  | storageUnits => memoryNames
  | storageSize => memoryNames
  | storageUsed => memoryNames
  | descriptions => [Metrics.interfaceCount]
  | _ => []

def showsInterfaces : Query → Bool
  | descriptions => true
  | adminStatus => true
  | operStatus => true
  | inOctets => true
  | outOctets => true
  | _ => false

theorem mem_metrics_of_eq {query : Query} {name known : String} (hmetrics : query.metrics = [known])
    (hname : name = known) : name ∈ query.metrics := by
  rw [hmetrics, hname]
  exact List.mem_singleton_self known

end Query

namespace Readings

variable (readings : Readings)

def loads : List Float := ((readings .processorLoads).getD []).filterMap fun row => row.2.asFloat?

/-- Units, size and part in use of the first memory row: there are such if there is this row, all three are numbers, and the size is not zero. -/
def memoryRow? : Option (Int × Int × Int) := do
  let _ ← readings.ramRow?
  let units ← readings .storageUnits
  let size ← readings .storageSize
  let used ← readings .storageUsed
  if 0 < size then some (units, size, used) else none

end Readings

/-- What a result says when the description could be asked for: it is a success, and each metric is what its own queries gave. -/
structure Reports (description : Option MetricValue) (readings : Readings) (result : PollResult) : Prop where
  success : result.success = true
  error : result.error = none
  cancelled : result.cancelled = false
  description : result.metrics.get? Metrics.systemDescription = description
  name : result.metrics.get? Metrics.systemName = readings .systemName
  uptime : result.metrics.get? Metrics.uptimeSeconds
    = ((readings .uptime).bind MetricValue.asInteger?).map fun ticks => .integer (ticks.tdiv 100)
  cpu : result.metrics.get? Metrics.cpuPercent = if readings.loads = [] then none
    else some (.float (readings.loads.foldl (· + ·) 0.0 / Decimal.ofNat readings.loads.length))
  memory : match readings.memoryRow? with
    | none => ∀ name ∈ Query.memoryNames, result.metrics.get? name = none
    | some (units, size, used) =>
        result.metrics.get? Metrics.memoryTotalMb = some (.integer ((size * units).tdiv mebibyte))
        ∧ result.metrics.get? Metrics.memoryUsedMb = some (.integer ((used * units).tdiv mebibyte))
        ∧ result.metrics.get? Metrics.memoryFreeMb
          = some (.integer ((size * units).tdiv mebibyte - (used * units).tdiv mebibyte))
        ∧ result.metrics.get? Metrics.memoryPercent
          = some (.float (Decimal.ofInt used / Decimal.ofInt size * 100.0))
  count : result.metrics.get? Metrics.interfaceCount
    = (readings .interfaceCount).or ((readings .descriptions).map fun rows => .ofNat rows.length)
  others : ∀ name ≠ Metrics.systemDescription, (∀ query : Query, name ∉ query.metrics) →
    result.metrics.get? name = none
  interfaces : result.interfaces = (readings .descriptions).elim [] readings.interfacesOf

/-- Results in which each metric depends on its own queries only, and so does the table of interfaces. -/
structure IsSeparated (resultOf : Readings → PollResult) : Prop where
  metrics : ∀ (left right : Readings) (name : String),
    (∀ query : Query, name ∈ query.metrics → left query = right query) →
      (resultOf left).metrics.get? name = (resultOf right).metrics.get? name
  interfaces : ∀ left right : Readings,
    (∀ query : Query, query.showsInterfaces = true → left query = right query) →
      (resultOf left).interfaces = (resultOf right).interfaces
  rest : ∀ left right : Readings,
    { resultOf left with metrics := .empty, interfaces := [] }
      = { resultOf right with metrics := .empty, interfaces := [] }

def outcome (device : Device) (started ended : Instant) (description : Option MetricValue) (readings : Readings) :
    PollResult :=
  (readings.addTo { PollResult.start device adapterName started with
    metrics := Metrics.empty.setIf Metrics.systemDescription description }).succeed ended

/-! ### Stage by stage -/

theorem length_applyRow (column : Column) (row : Row) (interfaces : List InterfaceStatus) :
    (applyRow column row interfaces).length = interfaces.length := by
  induction interfaces with
  | nil => rfl
  | cons status rest ih =>
      rw [applyRow]
      split
      · rfl
      · rw [List.length_cons, List.length_cons, ih]

theorem length_applyRows (column : Column) (rows : List Row) (interfaces : List InterfaceStatus) :
    (applyRows column rows interfaces).length = interfaces.length := by
  induction rows generalizing interfaces with
  | nil => rfl
  | cons row rows ih =>
      rw [applyRows, List.foldl_cons, ← applyRows, ih, length_applyRow]

theorem length_interfacesFrom (rows : List Row) (admin oper received sent : Option (List Row)) :
    (interfacesFrom rows admin oper received sent).length = rows.length := by
  simp only [interfacesFrom, length_applyRows, List.length_map]

theorem get?_withInterfaces_of_ne {name : String} (hname : name ≠ Metrics.interfaceCount)
    (interfaces : List InterfaceStatus) (result : PollResult) :
    (withInterfaces interfaces result).metrics.get? name = result.metrics.get? name := by
  dsimp only [withInterfaces]
  split
  · rfl
  · exact Metrics.get?_set_of_ne hname _

theorem get?_withInterfaces_count (interfaces : List InterfaceStatus) (result : PollResult) :
    (withInterfaces interfaces result).metrics.get? Metrics.interfaceCount
      = (result.metrics.get? Metrics.interfaceCount).or (some (.ofNat interfaces.length)) := by
  cases hcount : result.metrics.get? Metrics.interfaceCount with
  | some count => simp [withInterfaces, Metrics.contains, hcount]
  | none => simp [withInterfaces, Metrics.contains, hcount, Metrics.get?_set_self]

namespace Readings

variable (readings : Readings) (result : PollResult)

theorem get?_addInterfaces_of_ne {name : String} (hname : name ≠ Metrics.interfaceCount) :
    (readings.addInterfaces result).metrics.get? name = result.metrics.get? name := by
  rw [addInterfaces]
  split
  · rfl
  · exact get?_withInterfaces_of_ne hname ..

theorem get?_addInterfaces_count : (readings.addInterfaces result).metrics.get? Metrics.interfaceCount
    = (result.metrics.get? Metrics.interfaceCount).or
        ((readings .descriptions).map fun rows => .ofNat rows.length) := by
  rw [addInterfaces]
  cases readings .descriptions with
  | none => exact (Option.or_none ..).symm
  | some rows => exact (get?_withInterfaces_count ..).trans (by rw [interfacesOf, length_interfacesFrom]; rfl)

theorem memory_eq : readings.memory
    = match readings.memoryRow? with
      | none => []
      | some (units, size, used) => memoryMetrics units size used := by
  rw [memory, memoryFrom, memoryRow?, readings.ramRow?_eq]
  rcases (readings .storageTypes).bind ramIndex? with _ | index
  · rfl
  rw [memoryOf]
  rcases readings .storageUnits with _ | units
  · rfl
  rcases readings .storageSize with _ | size
  · rfl
  rcases readings .storageUsed with _ | used
  · rfl
  simp only [given?, Option.bind_eq_bind, Option.bind_some]
  split <;> rfl

theorem mem_memoryNames_of_mem_memory {entry : String × MetricValue} (hmem : entry ∈ readings.memory) :
    entry.1 ∈ Query.memoryNames := by
  rw [memory_eq] at hmem
  split at hmem
  · cases hmem
  · simp only [memoryMetrics, List.mem_cons, List.not_mem_nil, or_false] at hmem
    obtain rfl | rfl | rfl | rfl := hmem <;> simp [Query.memoryNames]

theorem get?_addMemory_of_not_mem {name : String} (hname : name ∉ Query.memoryNames) :
    (readings.addMemory result).metrics.get? name = result.metrics.get? name := by
  apply Metrics.get?_setAll_of_forall_ne
  intro entry hmem heq
  exact hname (heq ▸ readings.mem_memoryNames_of_mem_memory hmem)

end Readings

section

variable (description : Option MetricValue) (readings : Readings)

theorem cpuPercent?_eq : (readings .processorLoads).bind cpuPercent? = if readings.loads = [] then none
    else some (.float (readings.loads.foldl (· + ·) 0.0 / Decimal.ofNat readings.loads.length)) := by
  rw [Readings.loads]
  cases readings .processorLoads with
  | none => rfl
  | some rows =>
      rw [Option.bind_some, cpuPercent?, mean?, Option.getD_some]
      simp only [List.isEmpty_iff]
      split <;> rfl

theorem rest_addTo (result : PollResult) : { readings.addTo result with metrics := .empty, interfaces := [] }
    = { result with metrics := .empty, interfaces := [] } := by
  rw [Readings.addTo, Readings.addInterfaces]
  split <;> rfl

def systemMetrics : Metrics :=
  ((((Metrics.empty.setIf Metrics.systemDescription description).setIf Metrics.systemName (readings .systemName)).setIf
    Metrics.uptimeSeconds (uptime? (readings .uptime))).setIf Metrics.interfaceCount (readings .interfaceCount)).setIf
    Metrics.cpuPercent ((readings .processorLoads).bind cpuPercent?)

variable {device : Device} {started ended : Instant} {description : Option MetricValue} {readings : Readings}

theorem interfaces_outcome : (outcome device started ended description readings).interfaces
    = (readings .descriptions).elim [] readings.interfacesOf := by
  change (readings.addInterfaces _).interfaces = _
  rw [Readings.addInterfaces]
  cases readings .descriptions <;> rfl

theorem get?_outcome_of_ne {name : String} (hcount : name ≠ Metrics.interfaceCount) :
    (outcome device started ended description readings).metrics.get? name
      = (readings.memory.reverse.lookup name).or ((systemMetrics description readings).get? name) :=
  (readings.get?_addInterfaces_of_ne _ hcount).trans (Metrics.get?_setAll ..)

theorem get?_outcome_of_not_mem {name : String} (hcount : name ≠ Metrics.interfaceCount)
    (hmemory : name ∉ Query.memoryNames) :
    (outcome device started ended description readings).metrics.get? name
      = (systemMetrics description readings).get? name :=
  (readings.get?_addInterfaces_of_ne _ hcount).trans (readings.get?_addMemory_of_not_mem _ hmemory)

theorem get?_outcome_count : (outcome device started ended description readings).metrics.get? Metrics.interfaceCount
    = ((systemMetrics description readings).get? Metrics.interfaceCount).or
        ((readings .descriptions).map fun rows => .ofNat rows.length) :=
  (readings.get?_addInterfaces_count _).trans
    (congrArg (Option.or · _) (readings.get?_addMemory_of_not_mem _ (by decide)))

theorem get?_systemMetrics :
    (systemMetrics description readings).get? Metrics.systemDescription = description
    ∧ (systemMetrics description readings).get? Metrics.systemName = readings .systemName
    ∧ (systemMetrics description readings).get? Metrics.uptimeSeconds = uptime? (readings .uptime)
    ∧ (systemMetrics description readings).get? Metrics.interfaceCount = readings .interfaceCount
    ∧ (systemMetrics description readings).get? Metrics.cpuPercent
      = (readings .processorLoads).bind cpuPercent? := by
  refine ⟨?_, ?_, ?_, ?_, ?_⟩ <;>
    simp (disch := decide) only [systemMetrics, Metrics.get?_setIf_of_ne, Metrics.get?_setIf_self, Metrics.get?_empty,
      Option.or_none]

theorem get?_systemMetrics_memory {name : String} (hmemory : name ∈ Query.memoryNames) :
    (systemMetrics description readings).get? name = none := by
  rw [systemMetrics, Metrics.get?_setIf_of_ne, Metrics.get?_setIf_of_ne, Metrics.get?_setIf_of_ne,
    Metrics.get?_setIf_of_ne, Metrics.get?_setIf_of_ne, Metrics.get?_empty]
  all_goals
    rintro rfl
    revert hmemory
    decide

theorem get?_outcome_memory {name : String} (hmemory : name ∈ Query.memoryNames) :
    (outcome device started ended description readings).metrics.get? name = readings.memory.reverse.lookup name := by
  have hcount : name ≠ Metrics.interfaceCount := by
    rintro rfl
    revert hmemory
    decide
  rw [get?_outcome_of_ne hcount, get?_systemMetrics_memory hmemory, Option.or_none]

theorem reports_outcome : Reports description readings (outcome device started ended description readings) where
  success := rfl
  error := rfl
  cancelled := congrArg PollResult.cancelled (rest_addTo readings _)
  description := (get?_outcome_of_not_mem (by decide) (by decide)).trans get?_systemMetrics.1
  name := (get?_outcome_of_not_mem (by decide) (by decide)).trans get?_systemMetrics.2.1
  uptime := (get?_outcome_of_not_mem (by decide) (by decide)).trans get?_systemMetrics.2.2.1
  cpu := by
    rw [get?_outcome_of_not_mem (by decide) (by decide), get?_systemMetrics.2.2.2.2]
    exact cpuPercent?_eq readings
  memory := by
    have hmemory : ∀ name ∈ Query.memoryNames, (outcome device started ended description readings).metrics.get? name
        = readings.memory.reverse.lookup name := fun _ hname => get?_outcome_memory hname
    rw [readings.memory_eq] at hmemory
    split
    · rename_i hrow
      rw [hrow] at hmemory
      exact hmemory
    · rename_i units size used hrow
      rw [hrow] at hmemory
      exact ⟨hmemory _ (by decide), hmemory _ (by decide), hmemory _ (by decide), hmemory _ (by decide)⟩
  count := by rw [get?_outcome_count, get?_systemMetrics.2.2.2.1]
  others name hdescription hquery := by
    have hne : ∀ query : Query, ∀ known, query.metrics = [known] → name ≠ known :=
      fun query _ hmetrics hname => hquery query (Query.mem_metrics_of_eq hmetrics hname)
    rw [get?_outcome_of_not_mem (hne .interfaceCount _ rfl) (hquery .storageTypes), systemMetrics,
      Metrics.get?_setIf_of_ne (hne .processorLoads _ rfl), Metrics.get?_setIf_of_ne (hne .interfaceCount _ rfl),
      Metrics.get?_setIf_of_ne (hne .uptime _ rfl), Metrics.get?_setIf_of_ne (hne .systemName _ rfl),
      Metrics.get?_setIf_of_ne hdescription, Metrics.get?_empty]
  interfaces := interfaces_outcome

theorem get?_systemMetrics_congr (description : Option MetricValue) {left right : Readings} {name : String}
    (hagree : ∀ query : Query, name ∈ query.metrics → left query = right query) :
    (systemMetrics description left).get? name = (systemMetrics description right).get? name := by
  have hnamed : ∀ query : Query, ∀ known, query.metrics = [known] → name = known → left query = right query :=
    fun query _ hmetrics hname => hagree query (Query.mem_metrics_of_eq hmetrics hname)
  apply Metrics.get?_setIf_congr fun hname => by rw [hnamed .processorLoads _ rfl hname]
  apply Metrics.get?_setIf_congr (hnamed .interfaceCount _ rfl)
  apply Metrics.get?_setIf_congr fun hname => by rw [hnamed .uptime _ rfl hname]
  exact Metrics.get?_setIf_congr (hnamed .systemName _ rfl) rfl

theorem memory_congr {left right : Readings} {name : String} (hmemory : name ∈ Query.memoryNames)
    (hagree : ∀ query : Query, name ∈ query.metrics → left query = right query) : left.memory = right.memory := by
  rw [Readings.memory, Readings.memory, hagree .storageTypes hmemory, hagree .storageUnits hmemory,
    hagree .storageSize hmemory, hagree .storageUsed hmemory]

theorem isSeparated_outcome : IsSeparated (outcome device started ended description) where
  metrics left right name hagree := by
    -- the number of interfaces has two sources, the metrics of the memory share theirs, the others have one each
    by_cases hcount : name = Metrics.interfaceCount
    · have hdescriptions := hagree .descriptions (Query.mem_metrics_of_eq rfl hcount)
      have hsystem := get?_systemMetrics_congr description hagree
      rw [hcount] at hsystem ⊢
      rw [get?_outcome_count, get?_outcome_count, hsystem, hdescriptions]
    · by_cases hmemory : name ∈ Query.memoryNames
      · rw [get?_outcome_memory hmemory, get?_outcome_memory hmemory, memory_congr hmemory hagree]
      · rw [get?_outcome_of_not_mem hcount hmemory, get?_outcome_of_not_mem hcount hmemory,
          get?_systemMetrics_congr description hagree]
  interfaces left right hagree := by
    have hrows : left.interfacesOf = right.interfacesOf := by
      funext rows
      rw [Readings.interfacesOf, Readings.interfacesOf, hagree .adminStatus rfl, hagree .operStatus rfl,
        hagree .inOctets rfl, hagree .outOctets rfl]
    rw [interfaces_outcome, interfaces_outcome, hagree .descriptions rfl, hrows]
  rest left right := congrArg (PollResult.succeed · ended) ((rest_addTo left _).trans (rest_addTo right _).symm)

end

/-! ### Polls -/

section

variable {ε : Type} [Surroundings ε] {link : Link ε} {settings : TransportSettings} {device : Device} {env after : ε}
  {capability : SnmpCapability} {session : Session}

theorem poll_of_description_error (hcapable : capability? device = some capability)
    (hopen : openSession settings device capability (Surroundings.isCancelled env) = .ok session) {error : PollError}
    (hdescription : session.get link sysDescr env = (.error error, after)) :
    poll link settings device env
      = (.refused (.of error (PollResult.start device adapterName (Surroundings.now env)) (Surroundings.now after)),
          after) := by
  simp only [poll, requireCapability, hcapable, hopen, hdescription]

theorem poll_of_description (hcapable : capability? device = some capability)
    (hopen : openSession settings device capability (Surroundings.isCancelled env) = .ok session)
    {description : Option MetricValue} (hdescription : session.get link sysDescr env = (.ok description, after)) :
    poll link settings device env = match (read session link).run after with
      | none => (.stalled, after)
      | some (readings, done) =>
        (.answered ((readings.addTo { PollResult.start device adapterName (Surroundings.now env) with
            metrics := Metrics.empty.setIf Metrics.systemDescription description }).conclude done), done) := by
  simp only [poll, requireCapability, hcapable, hopen, hdescription, collect_eq, StateT.run_map]
  cases (read session link).run after <;> rfl

/-- A poll fails exactly when the description of the system can not be asked for. Otherwise it is a success, whatever the agent replies to the queries that follow: every metric is what the replies to its own queries say, and what comes of a query changes no metric that does not depend on it. Only an agent whose table never ends keeps a poll from its end. -/
theorem poll_reports_readings (hcapable : capability? device = some capability)
    (hopen : openSession settings device capability (Surroundings.isCancelled env) = .ok session)
    (hcalm : Surroundings.isCancelled (poll link settings device env).2 = false) :
    ∃ made answer after, session.Ending link sysDescr env made answer after ∧ match answer with
    | .error error => ∃ failure, poll link settings device env = (.refused failure, after) ∧ failure.error = error
    | .ok description =>
        (∀ readings done, Reads session link readings Query.all after done →
          let resultOf := outcome device (Surroundings.now env) (Surroundings.now done) description
          poll link settings device env = (.answered (resultOf readings), done)
            ∧ Reports description readings (resultOf readings)
            ∧ IsSeparated resultOf)
        ∧ ((¬ ∃ readings done, Reads session link readings Query.all after done)
          ↔ poll link settings device env = (.stalled, after)) := by
  obtain ⟨made, answer, after, hending⟩ := Session.exists_ending session link sysDescr env
  have hdescription := Session.get_eq_iff.2 ⟨made, hending⟩
  refine ⟨made, answer, after, hending, ?_⟩
  cases answer with
  | error error => exact ⟨_, poll_of_description_error hcapable hopen hdescription, rfl⟩
  | ok description =>
      have hpoll := poll_of_description hcapable hopen hdescription
      constructor
      · intro readings done hreads
        rw [run_read_iff.2 hreads] at hpoll
        refine ⟨?_, reports_outcome, isSeparated_outcome⟩
        rw [hpoll] at hcalm ⊢
        dsimp only
        rw [PollResult.conclude, hcalm]
        rfl
      · cases hread : (read session link).run after with
        | none =>
            rw [hread] at hpoll
            refine iff_of_true ?_ hpoll
            rintro ⟨readings, done, hreads⟩
            cases hread.symm.trans (run_read_iff.2 hreads)
        | some read =>
            obtain ⟨readings, done⟩ := read
            rw [hread] at hpoll
            refine iff_of_false (fun hnone => hnone ⟨readings, done, run_read_iff.1 hread⟩) fun hstalled => ?_
            rw [hpoll] at hstalled
            cases hstalled

end

/-- Two processors, one of which says nothing about its load, a disk, 256 MiB of memory, and an interface. -/
def gatewayMib : Mib where
  objects := [⟨sysDescr, .octets [103, 119]⟩, ⟨sysUptime, .timeTicks 12345⟩, ⟨ifDescr ++ [7], .integer 1⟩,
    ⟨hrStorageType ++ [1], .objectId [1, 3, 6, 1, 2, 1, 25, 2, 1, 4]⟩,
    ⟨hrStorageType ++ [2], .objectId [1, 3, 6, 1, 2, 1, 25, 2, 1, 2]⟩,
    ⟨hrStorageUnits ++ [2], .integer 1024⟩, ⟨hrStorageSize ++ [2], .integer 262144⟩,
    ⟨hrStorageUsed ++ [2], .integer 65536⟩, ⟨hrProcessorLoad ++ [1], .null⟩, ⟨hrProcessorLoad ++ [2], .gauge32 30⟩]
  sorted := by decide
  unmarked := by decide

def gatewaySession : Session := ⟨"192.0.2.1:161", true, 30000, 3⟩

def gatewayAccess : SnmpCapability := ⟨true, .v2c, some ⟨"public"⟩, 161, none, none, none⟩

def gateway : Device :=
  { Device.sample 1 with
    capabilities := some {
      snmp := some gatewayAccess, ssh := none, api := none, preferredMethod := none, fallbackOrder := [] } }

theorem poll_reports_readings_gateway :
    capability? gateway = some gatewayAccess
    ∧ openSession .default gateway gatewayAccess false = .ok gatewaySession
    ∧ ∃ result, (poll (gatewayMib.agent List.length).link .default gateway ⟨[]⟩).1 = .answered result
      ∧ result.success = true
      ∧ result.metrics.get? Metrics.systemDescription = some (.text "gw")
      ∧ result.metrics.get? Metrics.systemName = none
      ∧ result.metrics.get? Metrics.uptimeSeconds = some (.integer 123)
      ∧ result.metrics.get? Metrics.cpuPercent = some (.float ((0.0 + Decimal.ofInt 30) / Decimal.ofNat 1))
      ∧ result.metrics.get? Metrics.memoryTotalMb = some (.integer 256)
      ∧ result.metrics.get? Metrics.memoryUsedMb = some (.integer 64)
      ∧ result.metrics.get? Metrics.interfaceCount = some (.integer 1) := by
  have hcapable : capability? gateway = some gatewayAccess := by decide
  have hopen : openSession .default gateway gatewayAccess false = .ok gatewaySession := by decide +kernel
  refine ⟨hcapable, hopen, ?_⟩
  obtain ⟨made, answer, after, hending, hpoll⟩ :=
    @poll_reports_readings Heard _ (gatewayMib.agent List.length).link .default gateway ⟨[]⟩ _ _ hcapable hopen rfl
  obtain ⟨next, hdescription⟩ := gatewayMib.get_agent List.length gatewaySession sysDescr ⟨[]⟩
  cases (Session.get_eq_iff.2 ⟨made, hending⟩).symm.trans hdescription
  obtain ⟨done, hreads⟩ := gatewayMib.exists_reads List.length gatewaySession after
  obtain ⟨hanswered, hreports, -⟩ := hpoll.1 gatewayMib.readings done hreads
  have hrow : gatewayMib.readings.memoryRow? = some (1024, 262144, 65536) := by decide +kernel
  have hloads : gatewayMib.readings.loads = [Decimal.ofInt 30] := rfl
  have hmemory := hreports.memory
  rw [hrow] at hmemory
  refine ⟨_, congrArg Prod.fst hanswered, hreports.success, hreports.description.trans ?_, hreports.name.trans ?_,
    hreports.uptime.trans ?_, hreports.cpu.trans ?_, hmemory.1, hmemory.2.1, hreports.count.trans ?_⟩
  · decide +kernel
  · decide +kernel
  · decide +kernel
  · rw [hloads]
    rfl
  · decide +kernel

end Snmp

end RouterPoll
