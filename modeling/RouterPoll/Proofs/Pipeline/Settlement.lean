import RouterPoll.Proofs.Adapter.Fallback
import RouterPoll.Proofs.Adapter.Registry
import RouterPoll.Proofs.Pipeline.Replay
import RouterPoll.Proofs.Store.Memory

/-!
# What a poll counts for

An adapter whose poll is called off reports a failure like any other. Only the registry looks at why: when no candidate has succeeded it asks whether the polling was called off, the worker marks the result, and the processor then leaves the counter of the device alone. So being called off never counts against a device, a success counts even if the polling was called off meanwhile, and every other end counts as one failure.
-/

namespace RouterPoll

def Attempt.success? : Attempt → Option PollResult
  | answered result => if result.success then some result else none
  | _ => none

/-- The record of a poll that no adapter answered. -/
def HistoryRecord.unanswered (device : Device) (startedAt completedAt : Instant) (error : String) :
    HistoryRecord where
  tenantId := device.tenantId
  deviceId := device.id
  startedAt := startedAt
  completedAt := completedAt
  adapter := "none"
  success := false
  error := some error
  metricsCollected := 0
  responseTimeMs := completedAt.millisSince startedAt

/-- A row keeps a record: its ids as texts, its times in milliseconds, and what took longer than a column can say as the longest. -/
structure RecordRow.Keeps (record : HistoryRecord) (row : RecordRow) : Prop where
  tenantId : row.tenantId = record.tenantId.text
  deviceId : row.deviceId = record.deviceId.text
  startedAt : row.startedAt = record.startedAt.toMillis
  completedAt : row.completedAt = record.completedAt.toMillis
  adapter : row.adapter = record.adapter
  success : row.success = record.success
  error : row.error = record.error
  metricsCollected : row.metricsCollected = record.metricsCollected
  responseTimeMs : row.responseTimeMs = min (record.responseTimeMs : Int) 9223372036854775807

theorem RecordRow.keeps_ofRecord (record : HistoryRecord) : RecordRow.Keeps record (.ofRecord record) :=
  ⟨rfl, rfl, rfl, rfl, rfl, rfl, rfl, rfl, rfl⟩

/-- What a poll counts for: a success, nothing as it was called off, or one failure. -/
inductive PollOutcome where
  | succeeded (result : PollResult)
  | calledOff
  | failed

namespace PollOutcome

/-- What the polls of candidates count for, and whether the polling was called off when they were done. -/
def ofVisits {ε : Type} (visits : List (Visit ε)) (isCancelled : Bool) : PollOutcome :=
  match visits.findSome? (·.attempt.success?) with
  | some result => succeeded result
  | none => if isCancelled then calledOff else failed

def mark? : PollOutcome → Option Instant
  | succeeded result => some result.startedAt
  | _ => none

def failures (count : Nat) : PollOutcome → Nat
  | succeeded _ => 0
  | calledOff => count
  | failed => count + 1

/-- The result that goes on to the processor. -/
def Describes : PollOutcome → PollResult → Prop
  | succeeded brought, result => result = brought ∧ result.success = true
  | calledOff, result => result.success = false ∧ result.cancelled = true
    ∧ result.adapter = "none" ∧ result.error = some "poll cancelled"
  | failed, result => result.success = false ∧ result.cancelled = false

/-- What the record of the poll of a device says, by when the worker began and was done. -/
def Tells (device : Device) (startedAt completedAt : Instant) : PollOutcome → HistoryRecord → Prop
  | succeeded brought, record => record = {
      tenantId := brought.tenantId
      deviceId := brought.deviceId
      startedAt := brought.startedAt
      completedAt := brought.completedAt
      adapter := brought.adapter
      success := true
      error := brought.error
      metricsCollected := min brought.metricsCount 4294967295
      responseTimeMs := brought.responseTimeMs }
  | calledOff, record => record = .unanswered device startedAt completedAt "poll cancelled"
  | failed, record => ∃ error, record = .unanswered device startedAt completedAt error

end PollOutcome

/-! ### From the candidates to the worker's result -/

section

variable {ε : Type} [Surroundings ε] {device : Device} {candidates : List (Adapter ε)} {env after : ε}
  {visits : List (Visit ε)} {ending : FallbackEnd} {attempted : Nat} {lastError : String}

theorem Attempt.Succeeds.success? {attempt : Attempt} {result : PollResult}
    (hsucceeds : attempt.Succeeds result) : attempt.success? = some result := by
  cases hsucceeds with
  | answered hsuccess => exact if_pos hsuccess

theorem Attempt.Succeeds.success {attempt : Attempt} {result : PollResult}
    (hsucceeds : attempt.Succeeds result) : result.success = true := by
  cases hsucceeds with
  | answered hsuccess => exact hsuccess

theorem Attempt.Fails.success? {attempt : Attempt} {message : String}
    (hfails : attempt.Fails message) : attempt.success? = none := by
  cases hfails with
  | silent hsuccess herror => exact if_neg (by rw [hsuccess]; exact Bool.false_ne_true)
  | answered hsuccess herror => exact if_neg (by rw [hsuccess]; exact Bool.false_ne_true)
  | refused error result now => rfl
  | crashed => rfl

omit [Surroundings ε] in
theorem findSome?_success?_of_fails (hfails : ∀ visit ∈ visits, ∃ message, visit.attempt.Fails message) :
    visits.findSome? (·.attempt.success?) = none := by
  rw [List.findSome?_eq_none_iff]
  intro visit hmem
  obtain ⟨message, hmessage⟩ := hfails visit hmem
  exact hmessage.success?

/-- Whatever came of the candidates, the worker makes a result of it, and the result and its record say what the poll counts for. -/
theorem Course.exists_describes
    (hcourse : Course device attempted candidates lastError env visits after ending)
    (startedAt now : Instant) : ∃ result, ending.toResult? device startedAt now = some result
      ∧ let outcome := PollOutcome.ofVisits visits (Surroundings.isCancelled after)
        outcome.Describes result ∧ outcome.Tells device startedAt now (.ofResult result) := by
  rcases hcourse.ending_cases with
    ⟨earlier, last, result, rfl, hearlier, hsucceeds, rfl⟩ | ⟨hall, hend⟩
  · refine ⟨result, rfl, ?_⟩
    rw [PollOutcome.ofVisits, List.findSome?_append, findSome?_success?_of_fails hearlier,
      List.findSome?_singleton, hsucceeds.success?]
    refine ⟨⟨rfl, hsucceeds.success⟩, ?_⟩
    show HistoryRecord.ofResult result = _
    rw [HistoryRecord.ofResult, hsucceeds.success]
    rfl
  · rw [PollOutcome.ofVisits, findSome?_success?_of_fails hall]
    rcases hend with ⟨hcancelled, rfl⟩ | ⟨hleft, _, text, _, rfl⟩
    · rw [hcancelled]
      exact ⟨_, rfl, ⟨rfl, rfl, rfl, rfl⟩, rfl⟩
    · rw [hleft]
      exact ⟨_, rfl, ⟨rfl, rfl⟩, _, rfl⟩

end

/-! ### From the worker's result to the store -/

namespace Processor

variable {σ : Type} [Store σ]

theorem exists_foldl_write (now : Instant) (updates : List StoreUpdate) (processor : Processor σ) :
    ∃ tally, updates.foldl (write now) processor
      = ⟨replay processor.store (updates.map (now, ·)), processor.inFlight, tally⟩ := by
  induction updates generalizing processor with
  | nil => exact ⟨processor.tally, rfl⟩
  | cons update updates ih =>
      obtain ⟨counted, _, hwrite⟩ := write_eq now processor update
      obtain ⟨tally, hrest⟩ := ih (processor.write now update)
      rw [hwrite] at hrest
      refine ⟨tally, ?_⟩
      rw [List.foldl_cons, hwrite, hrest]
      rfl

theorem exists_process_eq (now : Instant) (processor : Processor σ) (result : PollResult) :
    ∃ tally, process now processor result
      = ⟨replay processor.store (result.writes.map (now, ·)),
        processor.inFlight.release result.deviceId, tally⟩ := by
  obtain ⟨tally, hwritten⟩ := exists_foldl_write now result.writes
    { processor with tally := processor.tally.count result }
  exact ⟨tally, by rw [process, hwritten]⟩

theorem mem_inFlight_process {processor : Processor σ} (hnodup : processor.inFlight.ids.Nodup) (now : Instant)
    (result : PollResult) (id : Uuid) : id ∈ (process now processor result).inFlight.ids
      ↔ id ≠ result.deviceId ∧ id ∈ processor.inFlight.ids := by
  obtain ⟨tally, hdone⟩ := exists_process_eq now processor result
  rw [hdone]
  exact hnodup.mem_erase_iff

end Processor

theorem PollResult.foldl_changeRow (result : PollResult) (id : Uuid) (row : DeviceRow) :
    result.writes.foldl (StoreUpdate.changeRow id) row
      = if result.deviceId = id then
          if result.success then row.polled result.startedAt
          else if result.cancelled then row else row.failed
        else row := by
  have hbatches (batches : List SessionBatch) (row : DeviceRow) :
      (batches.map (StoreUpdate.sessions result.tenantId result.deviceId)).foldl
        (StoreUpdate.changeRow id) row = row := by
    induction batches with
    | nil => rfl
    | cons batch batches ih => exact ih
  rw [writes, List.foldl_cons]
  cases result.success with
  | true =>
      rw [if_pos rfl, if_pos rfl, successWrites, List.foldl_append, hbatches]
      simp [StoreUpdate.changeRow]
  | false =>
      rw [if_neg Bool.false_ne_true, if_neg Bool.false_ne_true, failureWrites]
      cases result.cancelled <;> simp [StoreUpdate.changeRow]

namespace Processor

theorem map_snd_writes (result : PollResult) (now : Instant) :
    (result.writes.map (now, ·)).map (·.2) = result.writes := by
  rw [List.map_map]
  exact List.map_id _

theorem recordsOf_process (now : Instant) (processor : Processor Database) (result : PollResult) (id : Uuid) :
    (process now processor result).store.recordsOf id
      = (if result.deviceId = id then [RecordRow.ofRecord (.ofResult result)] else [])
        ++ processor.store.recordsOf id := by
  obtain ⟨tally, hdone⟩ := exists_process_eq now processor result
  rw [hdone, Database.recordsOf_replay, map_snd_writes, PollResult.filterMap_writes fun _ _ _ => rfl]
  by_cases hsame : result.deviceId = id <;> cases result.success <;>
    simp [StoreUpdate.record?, HistoryRecord.ofResult, hsame]

theorem row?_process (now : Instant) (processor : Processor Database) (result : PollResult) (id : Uuid) :
    (process now processor result).store.row? id = (processor.store.row? id).map fun row =>
      if result.deviceId = id then
        if result.success then row.polled result.startedAt
        else if result.cancelled then row else row.failed
      else row := by
  obtain ⟨tally, hdone⟩ := exists_process_eq now processor result
  rw [hdone, Database.row?_replay, map_snd_writes]
  exact congrArg (fun change => (processor.store.row? id).map change)
    (funext fun row => result.foldl_changeRow id row)

variable {outcome : PollOutcome} {result : PollResult} (hdescribes : outcome.Describes result)
  {deviceId : Uuid} (habout : result.deviceId = deviceId) {inFlight : InFlight}
  (hnodup : inFlight.ids.Nodup) (now : Instant) (tally : Tally)

include hdescribes habout hnodup

theorem process_memory_of_describes {store : MemoryStore} {entry : MemoryEntry}
    (hentry : store.devices.get? deviceId = some entry)
    (hcount : outcome = .failed → entry.failures + 1 < Text.limit32) :
    let done := process now ⟨store, inFlight, tally⟩ result
    (∀ other, other ∈ done.inFlight.ids ↔ other ≠ deviceId ∧ other ∈ inFlight.ids)
      ∧ (done.store.view deviceId).records
        = MemoryStore.pushNewest MemoryStore.maxRecords (.ofResult result) (store.view deviceId).records
      ∧ (done.store.devices.get? deviceId).map (fun entry => (entry.device.lastPolledAt, entry.failures))
        = some (outcome.mark?.or entry.device.lastPolledAt, outcome.failures entry.failures)
      ∧ ∀ other, other ≠ deviceId → done.store.view other = store.view other := by
  intro done
  subst habout
  have hdone : done = _ := process_of_known inFlight tally now
    (show (store.devices.get? result.deviceId).isSome = true by rw [hentry]; rfl)
  have hview (id : Uuid) : done.store.view id
      = if result.deviceId = id then (store.view id).process result else store.view id := by
    rw [hdone]
    exact MemoryStore.view_runAll now result.writes
      (fun _ hmem => PollResult.deviceId_of_mem_writes hmem) store id
  have hown := hview result.deviceId
  rw [if_pos rfl, DeviceView.process_eq] at hown
  refine ⟨mem_inFlight_process hnodup now result, by rw [hown], ?_, fun other hother => ?_⟩
  · show ((done.store.view result.deviceId).entry).map _ = _
    have hstored : (store.view result.deviceId).entry = some entry := hentry
    rw [hown, hstored]
    cases outcome with
    | succeeded brought =>
        obtain ⟨rfl, hsuccess⟩ := hdescribes
        simp only [hsuccess, if_true]
        rfl
    | calledOff =>
        obtain ⟨hsuccess, hcancelled, _⟩ := hdescribes
        simp only [hsuccess, hcancelled, Bool.false_eq_true, if_false, if_true]
        rfl
    | failed =>
        obtain ⟨hsuccess, hcancelled⟩ := hdescribes
        simp only [hsuccess, hcancelled, Bool.false_eq_true, if_false]
        have hfailed : entry.failed.failures = entry.failures + 1 :=
          Nat.min_eq_left (Nat.le_sub_one_of_lt (hcount rfl))
        exact congrArg (fun count => some (entry.device.lastPolledAt, count)) hfailed
  · rw [hview, if_neg (Ne.symm hother)]

theorem process_database_of_describes {database : Database} {row : DeviceRow} {count : Nat}
    (hrow : database.row? deviceId = some row) (hfailures : row.failures = .whole count)
    (hcount : outcome = .failed → count + 1 < Text.limit32) :
    let done := process now ⟨database, inFlight, tally⟩ result
    (∀ other, other ∈ done.inFlight.ids ↔ other ≠ deviceId ∧ other ∈ inFlight.ids)
      ∧ done.store.recordsOf deviceId
        = RecordRow.ofRecord (.ofResult result) :: database.recordsOf deviceId
      ∧ (done.store.row? deviceId).map (fun row => (row.lastPolledAt, row.failures))
        = some ((Cell.ofWhole? (outcome.mark?.map Instant.toMillis)).or row.lastPolledAt,
          Cell.whole (outcome.failures count))
      ∧ ∀ other, other ≠ deviceId → done.store.recordsOf other = database.recordsOf other
        ∧ done.store.row? other = database.row? other := by
  intro done
  subst habout
  have hrecords (id : Uuid) := recordsOf_process now ⟨database, inFlight, tally⟩ result id
  have hrows (id : Uuid) := row?_process now ⟨database, inFlight, tally⟩ result id
  refine ⟨mem_inFlight_process hnodup now result, by rw [hrecords, if_pos rfl]; rfl, ?_,
    fun other hother => ⟨?_, ?_⟩⟩
  · rw [hrows, hrow]
    simp only [Option.map_some, if_true]
    cases outcome with
    | succeeded brought =>
        obtain ⟨rfl, hsuccess⟩ := hdescribes
        rw [if_pos hsuccess]
        rfl
    | calledOff =>
        obtain ⟨hsuccess, hcancelled, _⟩ := hdescribes
        simp only [hsuccess, hcancelled, Bool.false_eq_true, if_false, if_true, hfailures]
        rfl
    | failed =>
        obtain ⟨hsuccess, hcancelled⟩ := hdescribes
        simp only [hsuccess, hcancelled, Bool.false_eq_true, if_false]
        rw [show row.failed.failures = .whole (count + 1 : Nat) by
          rw [← Cell.plus_one (hcount rfl), ← hfailures]
          rfl]
        rfl
  · rw [hrecords, if_neg (Ne.symm hother), List.nil_append]
  · rw [hrows]
    simp only [if_neg (Ne.symm hother), Option.map_id']

end Processor

/-! ### The whole way -/

namespace Registry

variable {ε : Type} [Surroundings ε] {registry : Registry ε} {device : Device}
  {candidates : List (Adapter ε)}

/-- A device that has candidates is polled, whatever its candidates do, as long as their polls return and keep to the device, and whenever the polling is called off. A result goes on to the processor, and when that has written it there is one record more, the device is not in flight any more, and the poll counts for what came of the candidates: after a success for the time when it began, and for no failure; for nothing at all when no candidate succeeded and the polling was called off by then; for one failure more otherwise. -/
theorem poll_counts_once (hselect : registry.selectOrdered device = some candidates)
    (hsome : candidates ≠ []) (hregular : ∀ adapter ∈ candidates, adapter.IsRegular device)
    (habout : ∀ adapter ∈ candidates, ∀ env, (adapter.poll device env).1.IsAbout device)
    (env : ε) (startedAt now writtenAt : Instant) {inFlight : InFlight} (hnodup : inFlight.ids.Nodup)
    (tally : Tally) : ∃ ending visits after result record,
      registry.recorded.pollWithFallback device ⟨env, []⟩ = (ending, ⟨after, visits⟩)
        ∧ registry.pollWithFallback device env = (ending, after)
        ∧ ending.toResult? device startedAt now = some result
        ∧ result.deviceId = device.id
        ∧ let outcome := PollOutcome.ofVisits visits (Surroundings.isCancelled after)
          outcome.Describes result ∧ outcome.Tells device startedAt now record
            ∧ (∀ (store : MemoryStore) (entry : MemoryEntry),
              store.devices.get? device.id = some entry →
              (outcome = .failed → entry.failures + 1 < Text.limit32) →
              let done := Processor.process writtenAt ⟨store, inFlight, tally⟩ result
              (∀ other, other ∈ done.inFlight.ids ↔ other ≠ device.id ∧ other ∈ inFlight.ids)
                ∧ (done.store.view device.id).records = MemoryStore.pushNewest MemoryStore.maxRecords
                  record (store.view device.id).records
                ∧ (done.store.devices.get? device.id).map
                  (fun entry => (entry.device.lastPolledAt, entry.failures))
                  = some (outcome.mark?.or entry.device.lastPolledAt, outcome.failures entry.failures)
                ∧ ∀ other, other ≠ device.id → done.store.view other = store.view other)
            ∧ ∀ (database : Database) (row : DeviceRow) (count : Nat),
              database.row? device.id = some row → row.failures = .whole count →
              (outcome = .failed → count + 1 < Text.limit32) →
              let done := Processor.process writtenAt ⟨database, inFlight, tally⟩ result
              (∀ other, other ∈ done.inFlight.ids ↔ other ≠ device.id ∧ other ∈ inFlight.ids)
                ∧ (∃ added, RecordRow.Keeps record added
                  ∧ done.store.recordsOf device.id = added :: database.recordsOf device.id)
                ∧ (done.store.row? device.id).map (fun row => (row.lastPolledAt, row.failures))
                  = some ((Cell.ofWhole? (outcome.mark?.map Instant.toMillis)).or row.lastPolledAt,
                    Cell.whole (outcome.failures count))
                ∧ ∀ other, other ≠ device.id → done.store.recordsOf other = database.recordsOf other
                  ∧ done.store.row? other = database.row? other := by
  obtain ⟨ending, visits, after, hrecorded, hcourse⟩ := exists_course hselect hsome hregular env
  obtain ⟨result, hresult, hdescribes, htells⟩ := hcourse.exists_describes startedAt now
  have hplain := registry.pollWithFallback_of_recorded hrecorded
  have hdevice : result.deviceId = device.id := by
    have hending := isAbout_of_selectOrdered hselect habout env
    rw [hplain] at hending
    exact hending.deviceId_eq hresult
  refine ⟨ending, visits, after, result, .ofResult result, hrecorded, hplain, hresult, hdevice,
    hdescribes, htells, fun _ _ hentry hcount => ?_, fun _ _ _ hrow hfailures hcount => ?_⟩
  · exact Processor.process_memory_of_describes hdescribes hdevice hnodup writtenAt tally hentry hcount
  · obtain ⟨hfree, hrecords, hrest⟩ :=
      Processor.process_database_of_describes hdescribes hdevice hnodup writtenAt tally hrow hfailures hcount
    exact ⟨hfree, ⟨_, RecordRow.keeps_ofRecord _, hrecords⟩, hrest⟩

/-- An adapter that fails, and one whose poll is called off while it is under way. -/
def closing : Registry Rehearsal :=
  let following (number : Nat) (name : String) (act : Script.Act) : Adapter Rehearsal :=
    Script.adapter number ⟨name, .snmp, .always true, ⟨act, []⟩, [], none, []⟩
  ⟨[following 0 "silent" (.failure none), following 1 "closing" (.cancel "session closed")]⟩

theorem of_mem_closing {adapter : Adapter Rehearsal} (hmem : adapter ∈ closing.adapters) :
    adapter.IsRegular (.sample 1) ∧ ∀ env, (adapter.poll (.sample 1) env).1.IsAbout (.sample 1) := by
  have hrepeated (act : Script.Act) (polls : Nat) : (Script.Acts.mk act []).at polls = act := by
    cases polls <;> rfl
  simp only [closing, List.mem_cons, List.not_mem_nil, or_false] at hmem
  rcases hmem with rfl | rfl <;>
    simp only [Adapter.IsRegular, Script.adapter, Script.actsFor, List.lookup_nil, Option.getD_none,
      hrepeated, Script.perform]
  · exact ⟨fun _ => .inr ⟨_, .silent rfl rfl⟩, fun _ => rfl⟩
  · exact ⟨fun _ => .inr ⟨_, .answered rfl rfl⟩, fun _ => rfl⟩

def closingDatabase : Database := (Database.create "poll.db").upsertDevice (.sample 1)

/-- The poll that is called off leaves a record that says so, and does not count. -/
theorem poll_counts_once_closing : ∃ result,
    (closing.pollWithFallback (.sample 1) ⟨false, ⟨1000, 0⟩, []⟩).1.toResult? (.sample 1) ⟨1000, 0⟩ ⟨1001, 0⟩
        = some result
      ∧ PollOutcome.calledOff.Describes result
      ∧ (let done := Processor.process ⟨1002, 0⟩ ⟨MemoryStore.sample, ⟨[⟨1⟩]⟩, .zero⟩ result
        (∀ other, other ∈ done.inFlight.ids ↔ other ≠ ⟨1⟩ ∧ other ∈ [(⟨1⟩ : Uuid)])
          ∧ (done.store.view ⟨1⟩).records
            = [⟨.nil, ⟨1⟩, ⟨1000, 0⟩, ⟨1001, 0⟩, "none", false, some "poll cancelled", 0, 1000⟩]
          ∧ (done.store.devices.get? ⟨1⟩).map (fun entry => (entry.device.lastPolledAt, entry.failures))
            = some (none, 0))
      ∧ let done := Processor.process ⟨1002, 0⟩ ⟨closingDatabase, ⟨[⟨1⟩]⟩, .zero⟩ result
        (done.store.recordsOf ⟨1⟩).map (fun row => (row.startedAt, row.adapter, row.success, row.error))
            = [(1000000, "none", false, some "poll cancelled")]
          ∧ (done.store.row? ⟨1⟩).map (fun row => (row.lastPolledAt, row.failures)) = some (.null, .whole 0) := by
  obtain ⟨ending, visits, after, result, record, hrecorded, hplain, hresult, _, hdescribes, htells,
    hmemory, hdatabase⟩ :=
    @poll_counts_once _ _ closing (.sample 1) closing.adapters rfl (List.cons_ne_nil _ _)
      (fun _ hmem => (of_mem_closing hmem).1) (fun _ hmem => (of_mem_closing hmem).2)
      ⟨false, ⟨1000, 0⟩, []⟩ ⟨1000, 0⟩ ⟨1001, 0⟩ ⟨1002, 0⟩ ⟨[⟨1⟩]⟩ (by decide) .zero
  have houtcome : PollOutcome.ofVisits visits (Surroundings.isCancelled after) = .calledOff := by
    have hrun : (fun run : FallbackEnd × Recorded Rehearsal =>
        PollOutcome.ofVisits run.2.visits (Surroundings.isCancelled run.2.scene))
        (closing.recorded.pollWithFallback (.sample 1) ⟨⟨false, ⟨1000, 0⟩, []⟩, []⟩) = .calledOff := rfl
    rw [hrecorded] at hrun
    exact hrun
  rw [houtcome] at hdescribes htells hmemory hdatabase
  have hrecord : record = _ := htells
  subst hrecord
  obtain ⟨hfree, hrecords, hentry, _⟩ := hmemory MemoryStore.sample _ rfl (by rintro ⟨⟩)
  obtain ⟨known, hknown, hunpolled, hfailures⟩ : ∃ row, closingDatabase.row? ⟨1⟩ = some row
      ∧ row.lastPolledAt = .null ∧ row.failures = .whole (0 : Nat) := ⟨_, rfl, rfl, rfl⟩
  obtain ⟨_, ⟨row, hkeeps, hrows⟩, hrow, _⟩ := hdatabase closingDatabase known 0 hknown hfailures (by rintro ⟨⟩)
  refine ⟨result, by rw [hplain]; exact hresult, hdescribes, ⟨hfree, hrecords, hentry⟩, ?_, ?_⟩
  · refine (congrArg (List.map _) hrows).trans ?_
    rw [List.map_cons, hkeeps.startedAt, hkeeps.adapter, hkeeps.success, hkeeps.error]
    rfl
  · rw [hunpolled] at hrow
    exact hrow

end Registry

end RouterPoll
