import Mathlib.Tactic.FinCases
import RouterPoll.Proofs.Store.Point
import RouterPoll.Proofs.Store.Upsert

/-!
# The newest records and points

What a store answers about the past of a device is decided by what was written about it, last first, and by nothing that was written about others. The store in memory drops the oldest of what it keeps when a limit is reached, so it has the newest writes, whatever their times are. The database sorts by its times in milliseconds; where these follow the order of writing, also with several in one millisecond, it answers the same with its times read back from milliseconds, under whatever clock.
-/

namespace RouterPoll

/-! ### What is written about a device -/

def recordsAbout (id : Uuid) (writes : List (Instant × StoreUpdate)) : List HistoryRecord :=
  (writes.map (·.2)).filterMap (StoreUpdate.record? id)

def pointsAbout (id : Uuid) (writes : List (Instant × StoreUpdate)) : List MetricsPoint :=
  (writes.map (·.2)).filterMap (StoreUpdate.point? id)

/-! ### The store in memory -/

namespace MemoryStore

/-- What every write pushes in front of a full list drops out at its end. -/
theorem newest_replay {ι : Type} {limit : Nat} (hlimit : 0 < limit) (items : MemoryStore → List ι)
    {pick : StoreUpdate → Option ι}
    (hrun : ∀ now update store, items (update.run now store).2
      = (pick update).elim (items store) fun item => pushNewest limit item (items store))
    (writes : List (Instant × StoreUpdate)) {store : MemoryStore} {older : List ι}
    (holder : items store = older.take limit) :
    items (replay store writes) = (((writes.map (·.2)).filterMap pick).reverse ++ older).take limit := by
  induction writes generalizing store older with
  | nil => exact holder
  | cons write writes ih =>
      have hnext := hrun write.1 write.2 store
      rw [replay, List.foldl_cons, ← replay, List.map_cons, List.filterMap_cons]
      cases hpick : pick write.2 with
      | none =>
          rw [hpick, Option.elim_none, holder] at hnext
          exact ih hnext
      | some item =>
          rw [hpick, Option.elim_some, holder, pushNewest_take item older hlimit] at hnext
          rw [ih hnext, List.reverse_cons, List.append_assoc, List.singleton_append]

theorem records_run (id : Uuid) (now : Instant) (update : StoreUpdate) (store : MemoryStore) :
    ((update.run now store).2.view id).records = (update.record? id).elim (store.view id).records
      fun record => pushNewest maxRecords record (store.view id).records := by
  rw [view_run]
  cases update with
  | history record =>
      show (if record.deviceId = id then _ else _ : DeviceView).records = _
      by_cases hsame : record.deviceId = id
      · simp [StoreUpdate.record?, hsame, DeviceView.apply]
      · simp [StoreUpdate.record?, hsame]
  | _ => split <;> rfl

theorem points_run (id : Uuid) (now : Instant) (update : StoreUpdate) (store : MemoryStore) :
    ((update.run now store).2.view id).points = (update.point? id).elim (store.view id).points
      fun point => pushNewest maxPoints point (store.view id).points := by
  rw [view_run]
  cases update with
  | metrics point =>
      show (if point.deviceId = id then _ else _ : DeviceView).points = _
      by_cases hsame : point.deviceId = id
      · simp [StoreUpdate.point?, hsame, DeviceView.apply]
      · simp [StoreUpdate.point?, hsame]
  | _ => split <;> rfl

theorem history_replay (writes : List (Instant × StoreUpdate)) (clock : Nat → Instant) (id : Uuid) (limit : Nat) :
    Store.readHistory (replay empty writes) clock id limit
      = .ok ((recordsAbout id writes).reverse.take (min limit maxRecords)) := by
  have hnone : (empty.view id).records = ([] : List HistoryRecord).take maxRecords := rfl
  have hkept := newest_replay (by decide : 0 < maxRecords) (fun store => (store.view id).records) (records_run id)
    writes hnone
  rw [List.append_nil] at hkept
  show Except.ok (((replay empty writes).view id).records.take limit) = _
  rw [hkept, List.take_take]
  rfl

theorem latestMetrics?_replay (writes : List (Instant × StoreUpdate)) (id : Uuid) :
    (replay empty writes).latestMetrics? id = (pointsAbout id writes).getLast? := by
  have hnone : (empty.view id).points = ([] : List MetricsPoint).take maxPoints := rfl
  have hkept := newest_replay (by decide : 0 < maxPoints) (fun store => (store.view id).points) (points_run id)
    writes hnone
  rw [List.append_nil] at hkept
  rw [latestMetrics?_eq, hkept, List.head?_take, List.head?_reverse]
  rfl

end MemoryStore

/-! ### The database -/

/-- A record whose numbers fit the columns they are kept in. -/
structure HistoryRecord.Fits (record : HistoryRecord) : Prop where
  metricsCollected : record.metricsCollected < Text.limit32
  responseTimeMs : record.responseTimeMs ≤ Text.maxSigned64

/-- A record as its row gives it back, with what the clock shows at each of its times. -/
def HistoryRecord.asRead (record : HistoryRecord) (atStart atEnd : Instant) : HistoryRecord :=
  { record with
    startedAt := record.startedAt.stored atStart
    completedAt := record.completedAt.stored atEnd }

/-- Records as their rows give them back, one after the other. -/
def HistoryRecord.allAsRead (clock : Nat → Instant) (records : List HistoryRecord) : List HistoryRecord :=
  records.zipIdx.map fun (record, place) => record.asRead (clock (2 * place)) (clock (2 * place + 1))

theorem RecordRow.toRecord_ofRecord {record : HistoryRecord} (hfits : record.Fits) (atStart atEnd : Instant) :
    (ofRecord record).toRecord atStart atEnd = .ok (record.asRead atStart atEnd) := by
  have htenant : Column.toUuid record.tenantId.text = .ok record.tenantId := by
    rw [Column.toUuid, Uuid.parse?_text]
  have hdevice : Column.toUuid record.deviceId.text = .ok record.deviceId := by
    rw [Column.toUuid, Uuid.parse?_text]
  have hmetrics : Column.toNat Text.limit32 0 record.metricsCollected = record.metricsCollected := by
    have hlimit := hfits.metricsCollected
    rw [Column.toNat, if_pos (by omega), Int.toNat_natCast]
  have hcell : Column.ofNat record.responseTimeMs = record.responseTimeMs := by
    rw [Column.ofNat, min_eq_left (Int.ofNat_le.2 hfits.responseTimeMs)]
  have hresponse : Column.toNat Text.limit64 0 record.responseTimeMs = record.responseTimeMs := by
    have hlimit := hfits.responseTimeMs
    have hwidth : Text.maxSigned64 < Text.limit64 := by decide
    rw [Column.toNat, if_pos (by omega), Int.toNat_natCast]
  simp only [toRecord, ofRecord, htenant, hdevice, hmetrics, hcell, hresponse]
  rfl

theorem RecordRow.toRecords_ofRecord {records : List HistoryRecord} (hfits : ∀ record ∈ records, record.Fits)
    (clock : Nat → Instant) :
    toRecords clock (records.map ofRecord) = .ok (HistoryRecord.allAsRead clock records) := by
  rw [toRecords, List.zipIdx_map]
  refine mapM_map_eq_ok fun item hmem => toRecord_ofRecord (hfits item.1 ?_) _ _
  exact List.fst_mem_of_mem_zipIdx hmem

theorem RecordRow.mergeSort_pair {first second : RecordRow} (hlate : first.startedAt < second.startedAt) :
    [first, second].mergeSort (fun left right => right.startedAt ≤ left.startedAt) = [second, first] := by
  simp [List.mergeSort, not_le.2 hlate]

namespace Database

variable {writes : List (Instant × StoreUpdate)} {id : Uuid}

/-- Where the milliseconds follow the order of writing, records are listed in that order, the last one first. -/
theorem history_replay (path : String) (hfits : ∀ record ∈ recordsAbout id writes, record.Fits)
    (hordered : (recordsAbout id writes).Pairwise fun earlier later =>
      earlier.startedAt.toMillis ≤ later.startedAt.toMillis) (clock : Nat → Instant) (limit : Nat) :
    Store.readHistory (replay (create path) writes) clock id limit
      = .ok (HistoryRecord.allAsRead clock ((recordsAbout id writes).reverse.take limit)) := by
  have hrows : (replay (create path) writes).recordsOf id
      = (recordsAbout id writes).reverse.map RecordRow.ofRecord := by
    rw [recordsOf_replay]
    exact List.append_nil _
  have hsorted : ((replay (create path) writes).recordsOf id).Pairwise fun newer older =>
      older.startedAt ≤ newer.startedAt := by
    rw [hrows, List.pairwise_map, List.pairwise_reverse]
    exact hordered
  show (replay (create path) writes).history clock id limit = _
  rw [history_of_sorted hsorted, hrows, ← List.map_take]
  refine RecordRow.toRecords_ofRecord (fun record hmem => hfits record ?_) clock
  exact List.mem_reverse.1 (List.mem_of_mem_take hmem)

theorem latestMetrics?_replay (path : String)
    (hordered : (pointsAbout id writes).Pairwise fun earlier later =>
      earlier.timestamp.toMillis ≤ later.timestamp.toMillis) (clock : Instant) :
    (replay (create path) writes).latestMetrics? clock id = match (pointsAbout id writes).getLast? with
      | none => .ok none
      | some point => ((PointRow.ofPoint point).toPoint clock id).map some := by
  have hrows : (replay (create path) writes).pointsOf id
      = (pointsAbout id writes).reverse.map PointRow.ofPoint := by
    rw [pointsOf_replay]
    exact List.append_nil _
  have hsorted : ((replay (create path) writes).pointsOf id).Pairwise fun newer older =>
      older.timestamp ≤ newer.timestamp := by
    rw [hrows, List.pairwise_map, List.pairwise_reverse]
    exact hordered
  rw [latestMetrics?_of_sorted hsorted, newestPoint?, hrows, List.head?_map, List.head?_reverse]
  cases (pointsAbout id writes).getLast? <;> rfl

end Database

/-! ### Times in order -/

theorem pairwise_toMillis {α : Type} {time : α → Instant} {items : List α}
    (hordinary : ∀ item ∈ items, (time item).IsOrdinary)
    (hordered : items.Pairwise fun earlier later => time earlier ≤ time later) :
    items.Pairwise fun earlier later => (time earlier).toMillis ≤ (time later).toMillis :=
  hordered.imp_of_mem fun hearlier _ hle => Instant.toMillis_mono (hordinary _ hearlier) hle

/-- After any writes, the store in memory answers with the records that were written last for a device, as many as are asked for and at most ten thousand, the last one first, and with the point that was written last. The database answers the same, with its times read back from milliseconds, if the milliseconds follow the order of writing, as they do where times outside leap seconds follow it. Such times come back cut; one in a leap second comes back in the second after it, and as what the clock shows where there is no such second. -/
theorem newest_of_writes (writes : List (Instant × StoreUpdate)) (path : String) (id : Uuid) :
    (∀ clock limit, Store.readHistory (replay MemoryStore.empty writes) clock id limit
        = .ok ((recordsAbout id writes).reverse.take (min limit 10000)))
      ∧ (replay MemoryStore.empty writes).latestMetrics? id = (pointsAbout id writes).getLast?
      ∧ ((∀ record ∈ recordsAbout id writes, record.Fits) →
        ((recordsAbout id writes).Pairwise fun earlier later =>
          earlier.startedAt.toMillis ≤ later.startedAt.toMillis) →
        ∀ clock limit, Store.readHistory (replay (Database.create path) writes) clock id limit
            = .ok (HistoryRecord.allAsRead clock ((recordsAbout id writes).reverse.take limit))
          ∧ ((recordsAbout id writes).length ≤ 10000 → ∃ records,
            Store.readHistory (replay MemoryStore.empty writes) clock id limit = .ok records
              ∧ Store.readHistory (replay (Database.create path) writes) clock id limit
                = .ok (HistoryRecord.allAsRead clock records)))
      ∧ (((pointsAbout id writes).Pairwise fun earlier later =>
          earlier.timestamp.toMillis ≤ later.timestamp.toMillis) → ∀ clock,
        (pointsAbout id writes = [] → (replay (Database.create path) writes).latestMetrics? clock id = .ok none)
          ∧ ∀ tenantId timestamp (result : PollResult),
            (pointsAbout id writes).getLast? = some (.ofResult tenantId id timestamp result) →
            result.IsTyped → result.metrics.isExact = true → result.metrics.isFinite = true →
            ∃ kept, (replay (Database.create path) writes).latestMetrics? clock id = .ok (some kept)
              ∧ (MetricsPoint.ofResult tenantId id timestamp result).IsKeptAs clock kept)
      ∧ ((∀ record ∈ recordsAbout id writes, record.startedAt.IsOrdinary) →
        ((recordsAbout id writes).Pairwise fun earlier later => earlier.startedAt ≤ later.startedAt) →
        (recordsAbout id writes).Pairwise fun earlier later =>
          earlier.startedAt.toMillis ≤ later.startedAt.toMillis)
      ∧ ((∀ point ∈ pointsAbout id writes, point.timestamp.IsOrdinary) →
        ((pointsAbout id writes).Pairwise fun earlier later => earlier.timestamp ≤ later.timestamp) →
        (pointsAbout id writes).Pairwise fun earlier later =>
          earlier.timestamp.toMillis ≤ later.timestamp.toMillis)
      ∧ ∀ time clock : Instant, (time.IsOrdinary → time.stored clock = time.cut)
        ∧ (time.IsCovered → Instant.nanosPerSecond ≤ time.nanos →
          time.stored clock = if Instant.inRange (time.seconds + 1) then
              ⟨time.seconds + 1, (time.nanos - Instant.nanosPerSecond) / 1000000 * 1000000⟩
            else clock) := by
  have hmemory (clock : Nat → Instant) := MemoryStore.history_replay writes clock id
  refine ⟨hmemory, MemoryStore.latestMetrics?_replay writes id, fun hfits hordered clock limit => ?_,
    fun hordered clock => ?_, pairwise_toMillis, pairwise_toMillis, fun time clock =>
      ⟨Column.toInstant_toMillis, fun hcovered hleap => Instant.stored_of_leap hcovered hleap clock⟩⟩
  · have hdatabase := Database.history_replay path hfits hordered clock limit
    refine ⟨hdatabase, fun hfew => ⟨_, hmemory clock limit, ?_⟩⟩
    have hall : (recordsAbout id writes).reverse.take MemoryStore.maxRecords = (recordsAbout id writes).reverse :=
      List.take_of_length_le (by rwa [List.length_reverse])
    rw [hdatabase, ← List.take_take, hall]
  · have hlatest := Database.latestMetrics?_replay path hordered clock
    refine ⟨fun hnone => ?_, fun tenantId timestamp result hlast htyped hexact hfinite => ?_⟩
    · rw [hlatest, hnone]
      rfl
    · refine ⟨_, ?_, MetricsPoint.isKeptAs_ofResult hfinite tenantId id timestamp clock⟩
      have hrow : (PointRow.ofPoint (.ofResult tenantId id timestamp result)).toPoint clock id
          = if result.metrics.isFinite then .ok ((MetricsPoint.ofResult tenantId id timestamp result).asRead clock)
            else .error Column.noMetric :=
        PointRow.toPoint_ofPoint htyped.metrics hexact htyped.interfaces clock
      rw [hlatest, hlast]
      simp only
      rw [hrow, if_pos hfinite]
      rfl

/-! ### Some writes -/

def HistoryRecord.since (number : BitVec 128) (startedAt : Instant) : HistoryRecord :=
  { HistoryRecord.ofResult .sample with
    deviceId := ⟨number⟩, startedAt, completedAt := ⟨startedAt.seconds + 1, 0⟩ }

/-- Three records of a device in one millisecond, the last two alike, with a record of another one and a point between them. -/
def StoreUpdate.crowded : List (Instant × StoreUpdate) :=
  [(⟨2000, 0⟩, .history (.since 1 ⟨1000, 100000⟩)), (⟨2000, 0⟩, .history (.since 2 ⟨1000, 0⟩)),
    (⟨2001, 0⟩, .metrics (.ofResult .nil ⟨1⟩ ⟨1001, 500000⟩ .sample)),
    (⟨2001, 0⟩, .history (.since 1 ⟨1000, 900000⟩)), (⟨2002, 0⟩, .history (.since 1 ⟨1000, 900000⟩))]

theorem newest_of_writes_crowded :
    Store.readHistory (replay MemoryStore.empty StoreUpdate.crowded) (fun _ => ⟨2003, 0⟩) ⟨1⟩ 2
        = .ok [.since 1 ⟨1000, 900000⟩, .since 1 ⟨1000, 900000⟩]
      ∧ Store.readHistory (replay (Database.create "poll.db") StoreUpdate.crowded) (fun _ => ⟨2003, 0⟩) ⟨1⟩ 2
        = .ok [.since 1 ⟨1000, 0⟩, .since 1 ⟨1000, 0⟩]
      ∧ ∃ kept, (replay (Database.create "poll.db") StoreUpdate.crowded).latestMetrics? ⟨2003, 0⟩ ⟨1⟩ = .ok (some kept)
        ∧ kept.timestamp = ⟨1001, 0⟩ := by
  have hrecords : recordsAbout ⟨1⟩ StoreUpdate.crowded
      = [.since 1 ⟨1000, 100000⟩, .since 1 ⟨1000, 900000⟩, .since 1 ⟨1000, 900000⟩] := by decide
  have hpoints : pointsAbout ⟨1⟩ StoreUpdate.crowded = [.ofResult .nil ⟨1⟩ ⟨1001, 500000⟩ .sample] := by rfl
  obtain ⟨hmemory, -, hdatabase, hlatest, hordinary, -, hcut⟩ := newest_of_writes StoreUpdate.crowded "poll.db" ⟨1⟩
  rw [hrecords] at hmemory hdatabase hordinary
  rw [hpoints] at hlatest
  have htyped : PollResult.sample.IsTyped := by
    refine ⟨⟨by decide, by decide +kernel⟩, fun status hmem => ?_⟩
    obtain rfl := List.mem_singleton.1 hmem
    exact ⟨by decide, by decide, by decide, by decide, by decide⟩
  obtain ⟨kept, hkept, hsame⟩ :=
    (hlatest (List.pairwise_singleton _ _) ⟨2003, 0⟩).2 .nil ⟨1001, 500000⟩ .sample rfl htyped
    (by decide +kernel) (by decide +kernel)
  refine ⟨hmemory _ 2, ?_, kept, hkept, ?_⟩
  · have hfits : ∀ record ∈ [HistoryRecord.since 1 ⟨1000, 100000⟩, .since 1 ⟨1000, 900000⟩, .since 1 ⟨1000, 900000⟩],
        record.Fits := by
      intro record hmem
      fin_cases hmem <;> exact ⟨by decide +kernel, by decide +kernel⟩
    have hlisted := (hdatabase hfits (hordinary (by decide) (by decide)) (fun _ => ⟨2003, 0⟩) 2).1
    rw [hlisted]
    decide +kernel
  · rw [hsame.cut (by decide)]
    rfl

/-- A poll that began in the leap second at the end of 2016, and one that began right after it. -/
def StoreUpdate.leaping : List (Instant × StoreUpdate) :=
  [(⟨1483228802, 0⟩, .history (.since 1 ⟨1483228799, 1500000000⟩)),
    (⟨1483228803, 0⟩, .history (.since 1 ⟨1483228800, 0⟩))]

/-- The first of the two polls is listed as the newest one, with a time in 2017, and not after the other with its own time cut to milliseconds. -/
theorem newest_of_leap_second :
    ((recordsAbout ⟨1⟩ StoreUpdate.leaping).Pairwise fun earlier later => earlier.startedAt ≤ later.startedAt)
      ∧ (∀ record ∈ recordsAbout ⟨1⟩ StoreUpdate.leaping, record.responseTimeMs ≤ Text.maxSigned64)
      ∧ Store.readHistory (replay MemoryStore.empty StoreUpdate.leaping) (fun _ => ⟨1483228804, 0⟩) ⟨1⟩ 10
        = .ok [.since 1 ⟨1483228800, 0⟩, .since 1 ⟨1483228799, 1500000000⟩]
      ∧ Store.readHistory (replay (Database.create "poll.db") StoreUpdate.leaping) (fun _ => ⟨1483228804, 0⟩) ⟨1⟩ 10
        = .ok [{ HistoryRecord.since 1 ⟨1483228799, 1500000000⟩ with startedAt := ⟨1483228800, 500000000⟩ },
          .since 1 ⟨1483228800, 0⟩]
      ∧ Store.readHistory (replay (Database.create "poll.db") StoreUpdate.leaping) (fun _ => ⟨1483228804, 0⟩) ⟨1⟩ 10
        ≠ .ok ((recordsAbout ⟨1⟩ StoreUpdate.leaping).reverse.map fun record =>
          { record with startedAt := record.startedAt.cut, completedAt := record.completedAt.cut }) := by
  have hrows : (replay (Database.create "poll.db") StoreUpdate.leaping).recordsOf ⟨1⟩
      = [.ofRecord (.since 1 ⟨1483228800, 0⟩), .ofRecord (.since 1 ⟨1483228799, 1500000000⟩)] := by
    rw [Database.recordsOf_replay]
    rfl
  have hlisted : Store.readHistory (replay (Database.create "poll.db") StoreUpdate.leaping)
      (fun _ => ⟨1483228804, 0⟩) ⟨1⟩ 10
      = .ok [{ HistoryRecord.since 1 ⟨1483228799, 1500000000⟩ with startedAt := ⟨1483228800, 500000000⟩ },
        .since 1 ⟨1483228800, 0⟩] := by
    show RecordRow.toRecords (fun _ => ⟨1483228804, 0⟩) (((Database.recordsOf _ ⟨1⟩).mergeSort _).take 10) = _
    rw [hrows, RecordRow.mergeSort_pair (by decide)]
    decide +kernel
  refine ⟨by decide, by decide, by decide +kernel, hlisted, ?_⟩
  rw [hlisted]
  decide +kernel

end RouterPoll
