import RouterPoll.Proofs.Store.Database

/-!
# The order of records and points

A store is what the writes have made of it, one after the other. A database keeps records and points in the order in which they were written, newest first, but it lists records by when their polls began, and its latest point is the one with the latest time. Where the times follow the order of writing, these orders are the same, and the newest is what was written last.
-/

namespace RouterPoll

/-- A store after some writes, each made at a time. -/
def replay {σ : Type} [Store σ] (store : σ) (writes : List (Instant × StoreUpdate)) : σ :=
  writes.foldl (fun store write => (write.2.run write.1 store).2) store

theorem replay_append {σ : Type} [Store σ] (store : σ) (writes more : List (Instant × StoreUpdate)) :
    replay store (writes ++ more) = replay (replay store writes) more :=
  List.foldl_append

namespace StoreUpdate

def mark? (id : Uuid) : StoreUpdate → Option Instant
  | polled deviceId polledAt => if deviceId = id then some polledAt else none
  | _ => none

def record? (id : Uuid) : StoreUpdate → Option HistoryRecord
  | history record => if record.deviceId = id then some record else none
  | _ => none

def point? (id : Uuid) : StoreUpdate → Option MetricsPoint
  | metrics point => if point.deviceId = id then some point else none
  | _ => none

def changeRow (id : Uuid) (row : DeviceRow) : StoreUpdate → DeviceRow
  | polled deviceId polledAt => if deviceId = id then row.polled polledAt else row
  | failure deviceId => if deviceId = id then row.failed else row
  | _ => row

end StoreUpdate

namespace Database

/-- The records of a device as they are kept, the one written last first. -/
def recordsOf (database : Database) (id : Uuid) : List RecordRow :=
  database.records.filter (·.deviceId == id.text)

/-- The points of a device as they are kept, the one written last first. -/
def pointsOf (database : Database) (id : Uuid) : List PointRow :=
  database.points.filter (·.deviceId == id.text)

variable {database : Database} {id : Uuid}

/-! ### What writes add -/

theorem recordsOf_run (now : Instant) (update : StoreUpdate) :
    (update.run now database).2.recordsOf id
      = (update.record? id).toList.map RecordRow.ofRecord ++ database.recordsOf id := by
  cases update with
  | history record =>
      show ((RecordRow.ofRecord record :: database.records).filter (·.deviceId == id.text)) = _
      by_cases hsame : record.deviceId = id
      · simp [StoreUpdate.record?, recordsOf, RecordRow.ofRecord, hsame]
      · have hother : record.deviceId.text ≠ id.text := fun hequal =>
          hsame (Uuid.text_injective hequal)
        simp [StoreUpdate.record?, recordsOf, RecordRow.ofRecord, hsame, hother]
  | polled deviceId polledAt =>
      rw [run_polled]
      rfl
  | metrics point => rfl
  | sessions tenantId deviceId batch => cases batch <;> rfl
  | failure deviceId =>
      rw [run_failure]
      rfl

theorem pointsOf_run (now : Instant) (update : StoreUpdate) :
    (update.run now database).2.pointsOf id
      = (update.point? id).toList.map PointRow.ofPoint ++ database.pointsOf id := by
  cases update with
  | metrics point =>
      show ((PointRow.ofPoint point :: database.points).filter (·.deviceId == id.text)) = _
      by_cases hsame : point.deviceId = id
      · simp [StoreUpdate.point?, pointsOf, PointRow.ofPoint, hsame]
      · have hother : point.deviceId.text ≠ id.text := fun hequal =>
          hsame (Uuid.text_injective hequal)
        simp [StoreUpdate.point?, pointsOf, PointRow.ofPoint, hsame, hother]
  | polled deviceId polledAt =>
      rw [run_polled]
      rfl
  | history record => rfl
  | sessions tenantId deviceId batch => cases batch <;> rfl
  | failure deviceId =>
      rw [run_failure]
      rfl

theorem row?_run (now : Instant) (update : StoreUpdate) :
    (update.run now database).2.row? id = (database.row? id).map (update.changeRow id) := by
  have hchanged (change : DeviceRow → DeviceRow) (hid : ∀ row, (change row).id = row.id)
      (deviceId : Uuid) : (database.changed deviceId change).row? id
        = (database.row? id).map fun row => if deviceId = id then change row else row := by
    rw [row?_changed hid]
    split
    · rfl
    · exact Option.map_id'.symm
  cases update with
  | polled deviceId polledAt =>
      rw [run_polled]
      exact hchanged (·.polled polledAt) (fun _ => rfl) deviceId
  | failure deviceId =>
      rw [run_failure]
      exact hchanged (·.failed) (fun _ => rfl) deviceId
  | sessions tenantId deviceId batch =>
      have hdevices := devices_run now (.sessions tenantId deviceId batch) database
      rw [row?, hdevices]
      exact Option.map_id'.symm
  | history record => exact Option.map_id'.symm
  | metrics point => exact Option.map_id'.symm

theorem row?_replay (writes : List (Instant × StoreUpdate)) (database : Database) :
    (replay database writes).row? id
      = (database.row? id).map fun row => (writes.map (·.2)).foldl (StoreUpdate.changeRow id) row := by
  induction writes generalizing database with
  | nil => exact Option.map_id'.symm
  | cons write writes ih =>
      have hrest := ih (write.2.run write.1 database).2
      rw [row?_run, Option.map_map] at hrest
      exact hrest

theorem rows_replay {ρ ι : Type} (rows : Database → List ρ) (pick : StoreUpdate → Option ι)
    (row : ι → ρ) (hrun : ∀ now update (database : Database),
      rows (update.run now database).2 = (pick update).toList.map row ++ rows database)
    (writes : List (Instant × StoreUpdate)) (database : Database) :
    rows (replay database writes)
      = ((writes.map (·.2)).filterMap pick).reverse.map row ++ rows database := by
  induction writes generalizing database with
  | nil => rfl
  | cons write writes ih =>
      rw [replay, List.foldl_cons, ← replay, ih, hrun, List.map_cons, List.filterMap_cons]
      cases pick write.2 <;> simp

theorem recordsOf_replay (writes : List (Instant × StoreUpdate)) :
    (replay database writes).recordsOf id
      = ((writes.map (·.2)).filterMap (StoreUpdate.record? id)).reverse.map RecordRow.ofRecord
        ++ database.recordsOf id :=
  rows_replay (recordsOf · id) _ _ (fun now update _ => recordsOf_run now update) writes database

theorem pointsOf_replay (writes : List (Instant × StoreUpdate)) :
    (replay database writes).pointsOf id
      = ((writes.map (·.2)).filterMap (StoreUpdate.point? id)).reverse.map PointRow.ofPoint
        ++ database.pointsOf id :=
  rows_replay (pointsOf · id) _ _ (fun now update _ => pointsOf_run now update) writes database

/-! ### Rows in order -/

/-- What the database keeps of a device was written in the order of its times, and is not from after a time. -/
structure IsInOrder (database : Database) (id : Uuid) (last : Instant) : Prop where
  records : (database.recordsOf id).Pairwise fun newer older => older.startedAt ≤ newer.startedAt
  began : ∀ row ∈ database.recordsOf id, row.startedAt ≤ last.toMillis
  points : (database.pointsOf id).Pairwise fun newer older => older.timestamp ≤ newer.timestamp
  taken : ∀ row ∈ database.pointsOf id, row.timestamp ≤ last.toMillis

theorem isInOrder_create (path : String) (id : Uuid) (last : Instant) :
    (create path).IsInOrder id last where
  records := List.Pairwise.nil
  began _ hmem := by cases hmem
  points := List.Pairwise.nil
  taken _ hmem := by cases hmem

theorem history_of_sorted
    (hsorted : (database.recordsOf id).Pairwise fun newer older => older.startedAt ≤ newer.startedAt)
    (clock : Nat → Instant) (limit : Nat) :
    database.history clock id limit = RecordRow.toRecords clock ((database.recordsOf id).take limit) := by
  have hmerge : (database.recordsOf id).mergeSort (fun left right => right.startedAt ≤ left.startedAt)
      = database.recordsOf id :=
    List.mergeSort_of_pairwise (hsorted.imp fun hle => decide_eq_true hle)
  rw [history]
  show RecordRow.toRecords clock (((database.recordsOf id).mergeSort _).take limit) = _
  rw [hmerge]

theorem mem_of_latestRow? {rows : List PointRow} {row : PointRow} (hlatest : latestRow? rows = some row) :
    row ∈ rows := by
  induction rows with
  | nil => cases hlatest
  | cons first rows ih =>
      rw [latestRow?] at hlatest
      split at hlatest
      · rename_i other hother
        split at hlatest
        · cases hlatest
          exact List.mem_cons_self
        · cases hlatest
          exact List.mem_cons_of_mem _ (ih hother)
      · cases hlatest
        exact List.mem_cons_self

theorem latestRow?_cons {first : PointRow} {rows : List PointRow}
    (hnewest : ∀ row ∈ rows, row.timestamp ≤ first.timestamp) : latestRow? (first :: rows) = some first := by
  rw [latestRow?]
  split
  · rename_i other hother
    exact if_pos (hnewest other (mem_of_latestRow? hother))
  · rfl

theorem latestRow?_of_sorted {rows : List PointRow}
    (hsorted : rows.Pairwise fun newer older => older.timestamp ≤ newer.timestamp) :
    latestRow? rows = rows.head? := by
  cases rows with
  | nil => rfl
  | cons first rows => exact latestRow?_cons (List.pairwise_cons.1 hsorted).1

def newestPoint? (clock : Instant) (id : Uuid) (rows : List PointRow) :
    Except StorageError (Option MetricsPoint) :=
  match rows.head? with
  | none => .ok none
  | some row => (row.toPoint clock id).map some

theorem latestMetrics?_of_sorted
    (hsorted : (database.pointsOf id).Pairwise fun newer older => older.timestamp ≤ newer.timestamp)
    (clock : Instant) : database.latestMetrics? clock id = newestPoint? clock id (database.pointsOf id) := by
  rw [latestMetrics?, newestPoint?, ← latestRow?_of_sorted hsorted]
  rfl

/-- Newer rows in front of older ones are in order when both are, and no newer one is from before a time that no older one is from after. -/
theorem pairwise_front {ι ρ : Type} {row : ι → ρ} {time : ρ → Int} {items : List ι} {old : List ρ}
    {last : Int} (hitems : items.Pairwise fun earlier later => time (row earlier) ≤ time (row later))
    (hnew : ∀ item ∈ items, last ≤ time (row item))
    (hold : old.Pairwise fun newer older => time older ≤ time newer) (hlast : ∀ row ∈ old, time row ≤ last) :
    (items.reverse.map row ++ old).Pairwise fun newer older => time older ≤ time newer := by
  refine List.pairwise_append.2 ⟨?_, hold, ?_⟩
  · rw [List.pairwise_map, List.pairwise_reverse]
    exact hitems
  · intro newer hmem older holder
    obtain ⟨item, hitem, rfl⟩ := List.mem_map.1 hmem
    exact le_trans (hlast older holder) (hnew item (List.mem_reverse.1 hitem))

end Database

end RouterPoll
