import Mathlib.Data.List.Induction
import RouterPoll.Proofs.Store.Memory

/-!
# What a sequence of results leaves in memory

The closed form of the processor on the store in memory. The results of a device, taken out of the whole sequence in their order, determine everything that is kept of it: `DeviceView.after` says what. It is proved by adding one result at the end; `DeviceView.process_eq` is what one result does.
-/

namespace RouterPoll

/-! ### What is read off a sequence of results -/

namespace PollResult

def own (id : Uuid) (results : List PollResult) : List PollResult :=
  results.filter (·.deviceId == id)

def point (result : PollResult) : MetricsPoint :=
  .ofResult result.tenantId result.deviceId result.completedAt result

def batch (result : PollResult) : SessionKind → SessionBatch
  | .pppoe => .pppoe result.pppoeSessions
  | .nat => .nat result.natSessions
  | .dhcp => .dhcp result.dhcpLeases

def replaces (result : PollResult) (kind : SessionKind) : Bool :=
  result.success && !(result.batch kind).isEmpty

def lastSuccess? (results : List PollResult) : Option PollResult :=
  (results.filter (·.success)).getLast?

/-- The last batch of a kind that has any sessions. -/
def lastBatch? (kind : SessionKind) (results : List PollResult) : Option SessionBatch :=
  (results.filter (·.replaces kind)).getLast?.map (·.batch kind)

/-- How many failures count after the last success, or at all if there is none. -/
def failuresSince (results : List PollResult) : Nat :=
  (results.reverse.takeWhile (!·.success)).countP (!·.cancelled)

theorem lastSuccess?_concat (results : List PollResult) (result : PollResult) :
    lastSuccess? (results ++ [result])
      = if result.success then some result else lastSuccess? results := by
  cases hsuccess : result.success <;> simp [lastSuccess?, hsuccess]

theorem lastBatch?_concat (kind : SessionKind) (results : List PollResult) (result : PollResult) :
    lastBatch? kind (results ++ [result])
      = if result.replaces kind then some (result.batch kind) else lastBatch? kind results := by
  cases hreplaces : result.replaces kind <;> simp [lastBatch?, hreplaces]

theorem failuresSince_concat (results : List PollResult) (result : PollResult) :
    failuresSince (results ++ [result])
      = if result.success then 0
        else failuresSince results + if result.cancelled then 0 else 1 := by
  cases hsuccess : result.success <;> cases hcancelled : result.cancelled <;>
    simp [failuresSince, hsuccess, hcancelled]

end PollResult

open PollResult (own lastSuccess? lastBatch? failuresSince)

def MemoryEntry.after (entry : MemoryEntry) (results : List PollResult) : MemoryEntry :=
  { entry with
    device := { entry.device with
      lastPolledAt := ((lastSuccess? results).map (·.startedAt)).or entry.device.lastPolledAt }
    failures :=
      min ((if results.any (·.success) then 0 else entry.failures) + failuresSince results)
        (Text.limit32 - 1) }

namespace DeviceView

/-- The view of a device after its results. -/
def after (view : DeviceView) (results : List PollResult) : DeviceView where
  entry := view.entry.map (·.after results)
  points := ((results.filter (·.success)).reverse.map PollResult.point ++ view.points).take
    MemoryStore.maxPoints
  records := (results.reverse.map HistoryRecord.ofResult ++ view.records).take
    MemoryStore.maxRecords
  sessions kind := ((lastBatch? kind results).map SessionBatch.snapshot).or (view.sessions kind)

def process (view : DeviceView) (result : PollResult) : DeviceView :=
  result.writes.foldl apply view

end DeviceView

/-! ### One result -/

namespace DeviceView

theorem foldl_filter_batches (tenantId deviceId : Uuid) (batches : List SessionBatch)
    (view : DeviceView) :
    ((batches.filter fun batch => !batch.isEmpty).map (StoreUpdate.sessions tenantId deviceId)).foldl
        apply view
      = (batches.map (StoreUpdate.sessions tenantId deviceId)).foldl apply view := by
  induction batches generalizing view with
  | nil => rfl
  | cons batch batches ih =>
      cases hempty : batch.isEmpty with
      | true =>
          have happly : view.apply (.sessions tenantId deviceId batch) = view := by
            ext1 <;> simp [apply, hempty]
          rw [List.filter_cons_of_neg (by simp [hempty]), List.map_cons, List.foldl_cons, happly, ih]
      | false =>
          rw [List.filter_cons_of_pos (by simp [hempty]), List.map_cons, List.map_cons,
            List.foldl_cons, List.foldl_cons, ih]

theorem foldl_sessionBatches (view : DeviceView) (result : PollResult) (tenantId deviceId : Uuid) :
    (result.sessionBatches.map (StoreUpdate.sessions tenantId deviceId)).foldl apply view
      = { view with
          sessions := fun kind =>
            if !(result.batch kind).isEmpty then some (result.batch kind).snapshot
            else view.sessions kind } := by
  rw [PollResult.sessionBatches, foldl_filter_batches]
  simp only [List.map_cons, List.map_nil, List.foldl_cons, List.foldl_nil, apply]
  ext1
  · rfl
  · rfl
  · rfl
  · funext kind
    cases kind <;> simp [PollResult.batch, SessionBatch.kind]

theorem process_eq (view : DeviceView) (result : PollResult) :
    view.process result =
      { entry :=
          if result.success then view.entry.map (·.polled result.startedAt)
          else if result.cancelled then view.entry else view.entry.map (·.failed)
        points :=
          if result.success then
            MemoryStore.pushNewest MemoryStore.maxPoints result.point view.points
          else view.points
        records := MemoryStore.pushNewest MemoryStore.maxRecords (.ofResult result) view.records
        sessions := fun kind =>
          if result.replaces kind then some (result.batch kind).snapshot else view.sessions kind } := by
  rw [process, PollResult.writes, List.foldl_cons]
  cases hsuccess : result.success with
  | true =>
      rw [if_pos rfl, PollResult.successWrites, List.foldl_append, foldl_sessionBatches]
      ext1
      · rfl
      · rfl
      · rfl
      · funext kind
        simp [PollResult.replaces, hsuccess, apply]
  | false =>
      rw [if_neg Bool.false_ne_true, PollResult.failureWrites]
      cases hcancelled : result.cancelled <;> ext1 <;>
        simp [apply, PollResult.replaces, hsuccess]

/-! ### A sequence of results -/

theorem after_nil {view : DeviceView} (hlimits : view.IsWithinLimits) : view.after [] = view := by
  ext1
  · show view.entry.map (·.after []) = view.entry
    cases hentry : view.entry with
    | none => rfl
    | some entry =>
        have hfailures := hlimits.failures entry hentry
        have hsame : entry.after [] = entry := by
          show ({ entry with failures := min (entry.failures + 0) _ } : MemoryEntry) = entry
          rw [Nat.add_zero, Nat.min_eq_left hfailures]
        rw [Option.map_some, hsame]
  · exact List.take_of_length_le hlimits.points
  · exact List.take_of_length_le hlimits.records
  · rfl

end DeviceView

theorem MemoryEntry.after_concat (entry : MemoryEntry) (results : List PollResult)
    (result : PollResult) :
    entry.after (results ++ [result]) =
      if result.success then (entry.after results).polled result.startedAt
      else if result.cancelled then entry.after results else (entry.after results).failed := by
  cases hsuccess : result.success with
  | true =>
      simp only [if_true, after, polled, PollResult.lastSuccess?_concat,
        PollResult.failuresSince_concat, hsuccess, List.any_append, List.any_cons, Bool.true_or,
        Bool.or_true, Option.map_some, Option.some_or, Nat.zero_add, Nat.zero_min]
  | false =>
      have hcap (base count : Nat) (cap : Nat) :
          min (base + (count + 1)) cap = min (min (base + count) cap + 1) cap := by omega
      cases hcancelled : result.cancelled <;>
        simp [after, failed, PollResult.lastSuccess?_concat, PollResult.failuresSince_concat,
          hsuccess, hcancelled, hcap]

namespace DeviceView

theorem after_concat (view : DeviceView) (results : List PollResult) (result : PollResult) :
    view.after (results ++ [result]) = (view.after results).process result := by
  rw [process_eq]
  ext1
  · cases hentry : view.entry with
    | none =>
        simp only [after, hentry, Option.map_none]
        cases result.success <;> cases result.cancelled <;> rfl
    | some entry =>
        simp only [after, hentry, Option.map_some, MemoryEntry.after_concat]
        cases result.success <;> cases result.cancelled <;> rfl
  · cases hsuccess : result.success with
    | true =>
        simp only [after, if_true, MemoryStore.pushNewest_take _ _ (show 0 < MemoryStore.maxPoints by decide)]
        simp [hsuccess]
    | false => simp [after, hsuccess]
  · simp only [after, MemoryStore.pushNewest_take _ _ (show 0 < MemoryStore.maxRecords by decide)]
    simp
  · funext kind
    simp only [after, PollResult.lastBatch?_concat]
    split <;> rfl

theorem foldl_process {view : DeviceView} (hlimits : view.IsWithinLimits)
    (results : List PollResult) : results.foldl process view = view.after results := by
  induction results using List.reverseRecOn with
  | nil => exact (after_nil hlimits).symm
  | append_singleton results result ih =>
      rw [List.foldl_append, ih, after_concat]
      rfl

end DeviceView

/-! ### Updates in a row -/

namespace MemoryStore

variable {store : MemoryStore}

def runAll (now : Instant) (store : MemoryStore) (updates : List StoreUpdate) : MemoryStore :=
  updates.foldl (fun store update => (update.run now store).2) store

theorem isSome_entry_run (now : Instant) (update : StoreUpdate) (store : MemoryStore) (id : Uuid) :
    ((update.run now store).2.view id).entry.isSome = (store.view id).entry.isSome := by
  rw [view_run]
  by_cases habout : update.deviceId = id
  · rw [if_pos habout]
    cases update <;> simp [DeviceView.apply]
  · rw [if_neg habout]

theorem isSome_entry_runAll (now : Instant) (updates : List StoreUpdate) (store : MemoryStore)
    (id : Uuid) : ((store.runAll now updates).view id).entry.isSome = (store.view id).entry.isSome := by
  induction updates generalizing store with
  | nil => rfl
  | cons update updates ih => exact (ih _).trans (isSome_entry_run now update store id)

theorem view_runAll (now : Instant) (updates : List StoreUpdate) {deviceId : Uuid}
    (habout : ∀ update ∈ updates, update.deviceId = deviceId) (store : MemoryStore) (id : Uuid) :
    (store.runAll now updates).view id
      = if deviceId = id then updates.foldl DeviceView.apply (store.view id) else store.view id := by
  induction updates generalizing store with
  | nil => exact (ite_self _).symm
  | cons update updates ih =>
      have hrest := ih (fun other hmem => habout other (List.mem_cons_of_mem _ hmem))
        (update.run now store).2
      have hfirst := view_run now update store id
      rw [habout update List.mem_cons_self] at hfirst
      show ((update.run now store).2.runAll now updates).view id = _
      rw [hrest, hfirst]
      split <;> rfl

end MemoryStore

/-! ### The tally -/

structure Tally.Totals (tally : Tally) (results : List PollResult) : Prop where
  processed : tally.processed = results.length
  succeeded : tally.succeeded = results.countP (·.success)
  failed : tally.failed = results.countP (!·.success)

theorem Tally.Totals.count {tally : Tally} {results : List PollResult}
    (htotals : tally.Totals results) (result : PollResult) :
    (tally.count result).Totals (results ++ [result]) := by
  obtain ⟨hprocessed, hsucceeded, hfailed⟩ := htotals
  cases hsuccess : result.success with
  | true =>
      constructor <;>
        simp [Tally.count, hsuccess, hprocessed, hsucceeded, hfailed, List.countP_append]
  | false =>
      constructor <;>
        simp [Tally.count, hsuccess, hprocessed, hsucceeded, hfailed, List.countP_append]

theorem Tally.Totals.countError {tally : Tally} {results : List PollResult}
    (htotals : tally.Totals results) : tally.countError.Totals results :=
  ⟨htotals.processed, htotals.succeeded, htotals.failed⟩

theorem Tally.Totals.processed_eq {tally : Tally} {results : List PollResult}
    (htotals : tally.Totals results) : tally.processed = tally.succeeded + tally.failed := by
  rw [htotals.processed, htotals.succeeded, htotals.failed]
  rw [List.length_eq_countP_add_countP PollResult.success]
  simp only [Bool.not_eq_true, Bool.decide_eq_false]

/-! ### The processor -/

theorem PollResult.deviceId_of_mem_writes {result : PollResult} {update : StoreUpdate}
    (hmem : update ∈ result.writes) : update.deviceId = result.deviceId := by
  rcases List.mem_cons.1 hmem with rfl | hrest
  · rfl
  · cases hsuccess : result.success with
    | true =>
        rw [hsuccess, if_pos rfl] at hrest
        rcases List.mem_append.1 hrest with hfirst | hbatch
        · rcases List.mem_cons.1 hfirst with rfl | hsecond
          · rfl
          · rw [List.mem_singleton.1 hsecond]
            rfl
        · obtain ⟨batch, _, rfl⟩ := List.mem_map.1 hbatch
          rfl
    | false =>
        rw [hsuccess, if_neg Bool.false_ne_true, failureWrites] at hrest
        split at hrest
        · cases hrest
        · rw [List.mem_singleton.1 hrest]
          rfl

namespace Processor

variable {store : MemoryStore} (inFlight : InFlight) (tally : Tally)

theorem foldl_write (now : Instant) {updates : List StoreUpdate}
    (hknown : ∀ update ∈ updates, (store.view update.deviceId).entry.isSome = true) :
    updates.foldl (write now) ⟨store, inFlight, tally⟩ = ⟨store.runAll now updates, inFlight, tally⟩ := by
  induction updates generalizing store with
  | nil => rfl
  | cons update updates ih =>
      have hok := MemoryStore.run_ok now update (hknown update List.mem_cons_self)
      have hwrite : write now ⟨store, inFlight, tally⟩ update
          = ⟨(update.run now store).2, inFlight, tally⟩ := by
        unfold write
        generalize update.run now store = outcome at hok
        obtain ⟨answer, next⟩ := outcome
        cases hok
        rfl
      rw [List.foldl_cons, hwrite]
      refine ih fun other hmem => ?_
      rw [MemoryStore.isSome_entry_run]
      exact hknown other (List.mem_cons_of_mem _ hmem)

theorem process_of_known (now : Instant) {result : PollResult}
    (hknown : (store.view result.deviceId).entry.isSome = true) :
    process now ⟨store, inFlight, tally⟩ result
      = ⟨store.runAll now result.writes, inFlight.release result.deviceId, tally.count result⟩ := by
  unfold process
  rw [foldl_write inFlight _ now fun update hmem => by
    rw [PollResult.deviceId_of_mem_writes hmem]
    exact hknown]

/-- The results go to the store, to the devices in flight and to the tally, and these do not depend on each other. -/
theorem processAll_of_known (now : Instant) {results : List PollResult}
    (hknown : ∀ result ∈ results, (store.view result.deviceId).entry.isSome = true) :
    processAll now ⟨store, inFlight, tally⟩ results
      = ⟨results.foldl (fun store result => store.runAll now result.writes) store,
        results.foldl (fun inFlight result => inFlight.release result.deviceId) inFlight,
        results.foldl Tally.count tally⟩ := by
  induction results generalizing store inFlight tally with
  | nil => rfl
  | cons result results ih =>
      show processAll now (process now ⟨store, inFlight, tally⟩ result) results = _
      rw [process_of_known inFlight tally now (hknown result List.mem_cons_self), ih]
      · rfl
      · intro other hmem
        rw [MemoryStore.isSome_entry_runAll]
        exact hknown other (List.mem_cons_of_mem _ hmem)

end Processor

/-- Of a sequence of results a device sees only its own. -/
theorem MemoryStore.view_foldl_writes (now : Instant) (results : List PollResult)
    (store : MemoryStore) (id : Uuid) :
    (results.foldl (fun store result => store.runAll now result.writes) store).view id
      = (own id results).foldl DeviceView.process (store.view id) := by
  unfold own
  induction results generalizing store with
  | nil => rfl
  | cons result results ih =>
      have habout := view_runAll now result.writes
        (fun _ hmem => PollResult.deviceId_of_mem_writes hmem) store id
      rw [List.foldl_cons, ih, habout]
      by_cases hown : result.deviceId = id
      · rw [if_pos hown, List.filter_cons_of_pos (by simp [hown]), List.foldl_cons]
        rfl
      · rw [if_neg hown, List.filter_cons_of_neg (by simp [hown])]

theorem Tally.totals_zero : Tally.zero.Totals [] := ⟨rfl, rfl, rfl⟩

theorem Tally.Totals.foldl_count {tally : Tally} {done : List PollResult}
    (htotals : tally.Totals done) (results : List PollResult) :
    (results.foldl Tally.count tally).Totals (done ++ results) := by
  induction results generalizing tally done with
  | nil =>
      rw [List.append_nil]
      exact htotals
  | cons result results ih =>
      have hrest := ih (htotals.count result)
      rwa [List.append_assoc, List.singleton_append] at hrest

theorem Tally.storageErrors_foldl_count (tally : Tally) (results : List PollResult) :
    (results.foldl Tally.count tally).storageErrors = tally.storageErrors := by
  induction results generalizing tally with
  | nil => rfl
  | cons result results ih =>
      rw [List.foldl_cons, ih, Tally.count]
      split <;> rfl

/-! ### The newest point -/

theorem DeviceView.head?_points_after (view : DeviceView) (results : List PollResult) :
    (view.after results).points.head?
      = ((lastSuccess? results).map PollResult.point).or view.points.head? := by
  show (List.take (999 + 1) _).head? = _
  rw [lastSuccess?, List.getLast?_eq_head?_reverse]
  cases (results.filter (·.success)).reverse with
  | nil =>
      rw [List.map_nil, List.nil_append]
      cases view.points <;> rfl
  | cons result rest => rfl

/-- Results of devices that the store in memory knows, in any order of the devices. Each device ends up as its own results say, taken out of the sequence in their order; the latest point is that of its last success; and the totals are those of the results, without a storage error. -/
theorem Processor.processAll_memory {store : MemoryStore} (hreached : store.IsReached)
    {results : List PollResult}
    (hknown : ∀ result ∈ results, (store.devices.get? result.deviceId).isSome = true)
    (now : Instant) (inFlight : InFlight) :
    let done := processAll now ⟨store, inFlight, .zero⟩ results
    (∀ id, done.store.view id = (store.view id).after (own id results)
        ∧ done.store.latestMetrics? id
          = ((lastSuccess? (own id results)).map PollResult.point).or (store.latestMetrics? id))
      ∧ done.tally.storageErrors = 0
      ∧ done.tally.processed = results.length
      ∧ done.tally.succeeded + done.tally.failed = results.length := by
  intro done
  have hdone := processAll_of_known inFlight .zero now hknown
  have htotals : done.tally.Totals results := by
    rw [show done.tally = _ from congrArg Processor.tally hdone]
    exact Tally.totals_zero.foldl_count results
  refine ⟨fun id => ?_, ?_, htotals.processed, ?_⟩
  · have hview : done.store.view id = (store.view id).after (own id results) := by
      rw [show done.store = _ from congrArg Processor.store hdone, MemoryStore.view_foldl_writes,
        DeviceView.foldl_process (hreached.isWithinLimits id)]
    refine ⟨hview, ?_⟩
    rw [MemoryStore.latestMetrics?_eq, hview, DeviceView.head?_points_after,
      MemoryStore.latestMetrics?_eq]
  · rw [show done.tally = _ from congrArg Processor.tally hdone, Tally.storageErrors_foldl_count]
    rfl
  · rw [← htotals.processed_eq, htotals.processed]

/-- Results of two devices in turn: a success with a metric and a session, a failure of the other device, and after the success a failure and a poll that was called off. -/
def PollResult.samples : List PollResult :=
  [{ (start (.sample 1) "snmp" ⟨1000, 0⟩).setMetric Metrics.uptimeSeconds (.integer 60) with
      natSessions := [⟨"tcp", "192.0.2.7", "192.0.2.1", none, none⟩] }.succeed ⟨1001, 0⟩,
    failed (.sample 2) "timeout" ⟨1002, 0⟩, failed (.sample 1) "timeout" ⟨1003, 0⟩,
    { failed (.sample 1) "poll cancelled" ⟨1004, 0⟩ with cancelled := true }]

/-- One failure is left to the first device, which was polled when its success began; it has three records, and the point and the session of its success. -/
theorem Processor.processAll_memory_sample :
    let done := processAll ⟨1005, 0⟩ ⟨MemoryStore.sample, .empty, .zero⟩ PollResult.samples
    (done.store.view ⟨1⟩).entry.map (fun entry => (entry.failures, entry.device.lastPolledAt))
        = some (1, some ⟨1000, 0⟩)
      ∧ (done.store.view ⟨1⟩).records.map (fun record => (record.adapter, record.success, record.error))
        = [("none", false, some "poll cancelled"), ("none", false, some "timeout"), ("snmp", true, none)]
      ∧ (done.store.latestMetrics? ⟨1⟩).map (fun point => (point.timestamp, point.uptimeSeconds))
        = some (⟨1001, 0⟩, some 60)
      ∧ ((done.store.view ⟨1⟩).sessions .nat).map (fun table => (table.get? "tcp|192.0.2.7|192.0.2.1").isSome)
        = some true
      ∧ (∀ id, done.store.view id = (MemoryStore.sample.view id).after (own id PollResult.samples)
          ∧ done.store.latestMetrics? id
            = ((lastSuccess? (own id PollResult.samples)).map PollResult.point).or
              (MemoryStore.sample.latestMetrics? id))
      ∧ done.tally.storageErrors = 0
      ∧ done.tally.processed = PollResult.samples.length
      ∧ done.tally.succeeded + done.tally.failed = PollResult.samples.length :=
  ⟨by decide, by decide, by decide, by decide, processAll_memory MemoryStore.isReached_sample (by decide) ⟨1005, 0⟩ .empty⟩

end RouterPoll
