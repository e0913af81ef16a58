import RouterPoll.Pipeline.Processor
import RouterPoll.Proofs.Store.Table
import RouterPoll.Store.Memory

/-!
# The store in memory, device by device

All that the store in memory keeps of one device is its `DeviceView`. An update is about one device: it changes the view of that device as `DeviceView.apply` says and leaves all other views alone, so whatever is said of a sequence of updates can be said of the views one by one. An update is refused only where the device is unknown.
-/

namespace RouterPoll

/-- What the store in memory keeps of one device. -/
@[ext]
structure DeviceView where
  entry : Option MemoryEntry
  points : List MetricsPoint
  records : List HistoryRecord
  sessions : SessionKind → Option (Table String SessionEntry)

def MemoryStore.view (store : MemoryStore) (id : Uuid) : DeviceView where
  entry := store.devices.get? id
  points := (store.metrics.get? id).getD []
  records := (store.history.get? id).getD []
  sessions kind := store.sessions.get? (id, kind)

theorem MemoryStore.latestMetrics?_eq (store : MemoryStore) (id : Uuid) :
    store.latestMetrics? id = (store.view id).points.head? := by
  unfold latestMetrics? view
  cases store.metrics.get? id <;> rfl

namespace MemoryEntry

def polled (entry : MemoryEntry) (polledAt : Instant) : MemoryEntry :=
  { entry with device := { entry.device with lastPolledAt := some polledAt }, failures := 0 }

def failed (entry : MemoryEntry) : MemoryEntry :=
  { entry with failures := min (entry.failures + 1) (Text.limit32 - 1) }

end MemoryEntry

def SessionBatch.snapshot (batch : SessionBatch) : Table String SessionEntry :=
  .ofList (batch.entries.map fun entry => (entry.naturalKey, entry))

def StoreUpdate.deviceId : StoreUpdate → Uuid
  | history record => record.deviceId
  | polled deviceId _ => deviceId
  | metrics point => point.deviceId
  | sessions _ deviceId _ => deviceId
  | failure deviceId => deviceId

structure DeviceView.IsWithinLimits (view : DeviceView) : Prop where
  failures : ∀ entry ∈ view.entry, entry.failures ≤ Text.limit32 - 1
  points : view.points.length ≤ MemoryStore.maxPoints
  records : view.records.length ≤ MemoryStore.maxRecords

def DeviceView.apply (view : DeviceView) : StoreUpdate → DeviceView
  | .history record =>
    { view with records := MemoryStore.pushNewest MemoryStore.maxRecords record view.records }
  | .polled _ polledAt => { view with entry := view.entry.map (·.polled polledAt) }
  | .metrics point =>
    { view with points := MemoryStore.pushNewest MemoryStore.maxPoints point view.points }
  | .sessions _ _ batch =>
    { view with
      sessions := fun kind =>
        if kind == batch.kind && !batch.isEmpty then some batch.snapshot else view.sessions kind }
  | .failure _ => { view with entry := view.entry.map (·.failed) }

namespace MemoryStore

variable {store : MemoryStore} {id : Uuid}

/-! ### Bounded lists -/

theorem pushNewest_eq_take {α : Type} {limit : Nat} (item : α) {items : List α}
    (hpositive : 0 < limit) (hlength : items.length ≤ limit) :
    pushNewest limit item items = (item :: items).take limit := by
  obtain ⟨limit, rfl⟩ := Nat.exists_eq_succ_of_ne_zero (Nat.ne_of_gt hpositive)
  unfold pushNewest
  by_cases hroom : items.length < limit + 1
  · rw [if_pos hroom, List.take_succ_cons, List.take_of_length_le (by omega)]
  · have hfull : items.length = limit + 1 := by omega
    rw [if_neg hroom, List.take_succ_cons, List.dropLast_eq_take, hfull, Nat.add_sub_cancel]

theorem length_pushNewest_le {α : Type} {limit : Nat} (item : α) {items : List α}
    (hpositive : 0 < limit) (hlength : items.length ≤ limit) :
    (pushNewest limit item items).length ≤ limit := by
  rw [pushNewest_eq_take item hpositive hlength]
  exact List.length_take_le _ _

theorem pushNewest_take {α : Type} {limit : Nat} (item : α) (items : List α)
    (hpositive : 0 < limit) :
    pushNewest limit item (items.take limit) = (item :: items).take limit := by
  rw [pushNewest_eq_take item hpositive (by rw [List.length_take]; omega)]
  obtain ⟨limit, rfl⟩ := Nat.exists_eq_succ_of_ne_zero (Nat.ne_of_gt hpositive)
  rw [List.take_succ_cons, List.take_succ_cons, List.take_take, Nat.min_eq_left (by omega)]

/-! ### Changing an entry -/

theorem modify_of_none (change : MemoryEntry → MemoryEntry) (hnone : store.devices.get? id = none) :
    store.modify id change = .error (.deviceNotFound id) := by
  rw [modify, entry, hnone]
  rfl

theorem modify_of_some (change : MemoryEntry → MemoryEntry) {entry : MemoryEntry}
    (hsome : store.devices.get? id = some entry) :
    store.modify id change
      = .ok (change entry, { store with devices := store.devices.put id (change entry) }) := by
  rw [modify, MemoryStore.entry, hsome]
  rfl

def changed (store : MemoryStore) (id : Uuid) (change : MemoryEntry → MemoryEntry) : MemoryStore :=
  match store.devices.get? id with
  | some entry => { store with devices := store.devices.put id (change entry) }
  | none => store

theorem view_changed (change : MemoryEntry → MemoryEntry) (other : Uuid) :
    (store.changed id change).view other
      = if id = other then { store.view other with entry := (store.view other).entry.map change }
        else store.view other := by
  unfold changed
  by_cases hsame : id = other
  · subst hsame
    rw [if_pos rfl]
    cases hentry : store.devices.get? id with
    | none => simp only [view, hentry, Option.map_none]
    | some entry => simp only [view, hentry, Table.get?_put_self, Option.map_some]
  · rw [if_neg hsame]
    cases hentry : store.devices.get? id with
    | none => rfl
    | some entry => simp only [view, Table.get?_put_of_ne _ _ (Ne.symm hsame)]

/-! ### Updates -/

theorem run_polled (now polledAt : Instant) :
    (StoreUpdate.polled id polledAt).run now store =
      (if (store.devices.get? id).isSome then .ok () else .error (.deviceNotFound id),
        store.changed id (·.polled polledAt)) := by
  unfold changed
  cases hentry : store.devices.get? id with
  | none =>
      simp only [StoreUpdate.run, Store.markPolled, markPolled, modify_of_none _ hentry]
      rfl
  | some entry =>
      simp only [StoreUpdate.run, Store.markPolled, markPolled, modify_of_some _ hentry]
      rfl

theorem run_failure (now : Instant) :
    (StoreUpdate.failure id).run now store =
      (if (store.devices.get? id).isSome then .ok () else .error (.deviceNotFound id),
        store.changed id (·.failed)) := by
  unfold changed
  cases hentry : store.devices.get? id with
  | none =>
      simp only [StoreUpdate.run, Store.recordFailure, recordFailure, modify_of_none _ hentry]
      rfl
  | some entry =>
      simp only [StoreUpdate.run, Store.recordFailure, recordFailure, modify_of_some _ hentry]
      rfl

theorem view_run (now : Instant) (update : StoreUpdate) (store : MemoryStore) (id : Uuid) :
    (update.run now store).2.view id
      = if update.deviceId = id then (store.view id).apply update else store.view id := by
  cases update with
  | history record =>
      show (store.writeHistory record).view id = if record.deviceId = id then _ else _
      by_cases hsame : record.deviceId = id
      · subst hsame
        rw [if_pos rfl]
        simp only [view, writeHistory, Table.get?_put_self]
        rfl
      · rw [if_neg hsame]
        simp only [view, writeHistory, Table.get?_put_of_ne _ _ (Ne.symm hsame)]
  | polled deviceId polledAt =>
      rw [run_polled]
      exact view_changed _ _
  | metrics point =>
      show (store.writeMetrics point).view id = if point.deviceId = id then _ else _
      by_cases hsame : point.deviceId = id
      · subst hsame
        rw [if_pos rfl]
        simp only [view, writeMetrics, Table.get?_put_self]
        rfl
      · rw [if_neg hsame]
        simp only [view, writeMetrics, Table.get?_put_of_ne _ _ (Ne.symm hsame)]
  | sessions tenantId deviceId batch =>
      show (store.upsertSessions deviceId batch).view id = if deviceId = id then _ else _
      by_cases hempty : batch.isEmpty = true
      · rw [upsertSessions, if_pos hempty]
        split
        · ext1 <;> simp [DeviceView.apply, hempty]
        · rfl
      · rw [upsertSessions, if_neg hempty]
        by_cases hsame : deviceId = id
        · subst hsame
          rw [if_pos rfl]
          ext1
          · rfl
          · rfl
          · rfl
          · funext kind
            by_cases hkind : kind = batch.kind
            · subst hkind
              simp [view, DeviceView.apply, hempty, SessionBatch.snapshot]
            · have hother : (deviceId, kind) ≠ (deviceId, batch.kind) := fun hpair =>
                hkind (Prod.mk.inj hpair).2
              simp [view, DeviceView.apply, hkind, Table.get?_put_of_ne _ _ hother]
        · rw [if_neg hsame]
          ext1
          · rfl
          · rfl
          · rfl
          · funext kind
            have hother : (id, kind) ≠ (deviceId, batch.kind) := fun hpair =>
              hsame (Prod.mk.inj hpair).1.symm
            exact Table.get?_put_of_ne _ _ hother
  | failure deviceId =>
      rw [run_failure]
      exact view_changed _ _

theorem run_ok (now : Instant) (update : StoreUpdate)
    (hknown : (store.view update.deviceId).entry.isSome = true) :
    (update.run now store).1 = .ok () := by
  cases update with
  | polled deviceId polledAt =>
      rw [run_polled]
      exact if_pos hknown
  | failure deviceId =>
      rw [run_failure]
      exact if_pos hknown
  | _ => rfl

/-! ### Stores that can be reached -/

/-- The stores that the operations lead to. -/
inductive IsReached : MemoryStore → Prop where
  | empty : IsReached .empty
  | upserted {store : MemoryStore} (hreached : IsReached store) (device : Device) :
      IsReached (store.upsertDevice device)
  | updated {store : MemoryStore} (hreached : IsReached store) (now : Instant)
      (update : StoreUpdate) : IsReached (update.run now store).2

/-- The entry of a device that was put in over an older one, if there was one. -/
def mergedEntry (device : Device) (old : Option MemoryEntry) : MemoryEntry where
  device := { device.bare with
    lastPolledAt := device.lastPolledAt.or (old.bind (·.device.lastPolledAt)) }
  capabilities := device.capabilities
  roles := device.roles
  failures := (old.map (·.failures)).getD 0

theorem view_upsertDevice (device : Device) (other : Uuid) :
    (store.upsertDevice device).view other
      = if device.id = other then
          { store.view other with entry := some (mergedEntry device (store.view other).entry) }
        else store.view other := by
  by_cases hsame : device.id = other
  · subst hsame
    rw [if_pos rfl]
    simp only [view, upsertDevice, Table.get?_put_self]
    rfl
  · rw [if_neg hsame]
    simp only [view, upsertDevice, Table.get?_put_of_ne _ _ (Ne.symm hsame)]

theorem isWithinLimits_apply {view : DeviceView} (hlimits : view.IsWithinLimits)
    (update : StoreUpdate) : (view.apply update).IsWithinLimits := by
  obtain ⟨hfailures, hpoints, hrecords⟩ := hlimits
  cases update with
  | history =>
      exact ⟨hfailures, hpoints, length_pushNewest_le _ (by decide) hrecords⟩
  | polled =>
      refine ⟨?_, hpoints, hrecords⟩
      intro entry hentry
      obtain ⟨old, _, rfl⟩ := Option.map_eq_some_iff.1 hentry
      exact Nat.zero_le _
  | metrics =>
      exact ⟨hfailures, length_pushNewest_le _ (by decide) hpoints, hrecords⟩
  | sessions => exact ⟨hfailures, hpoints, hrecords⟩
  | failure =>
      refine ⟨?_, hpoints, hrecords⟩
      intro entry hentry
      obtain ⟨old, _, rfl⟩ := Option.map_eq_some_iff.1 hentry
      exact Nat.min_le_right _ _

theorem IsReached.isWithinLimits (hreached : store.IsReached) (id : Uuid) :
    (store.view id).IsWithinLimits := by
  induction hreached with
  | empty =>
      refine ⟨?_, Nat.zero_le _, Nat.zero_le _⟩
      intro entry hentry
      cases hentry
  | @upserted store _ device ih =>
      rw [view_upsertDevice]
      split
      · refine ⟨?_, ih.points, ih.records⟩
        intro entry hentry
        cases hentry
        cases hold : (store.view id).entry with
        | none => exact Nat.zero_le _
        | some old => exact ih.failures old hold
      · exact ih
  | updated _ now update ih =>
      rw [view_run]
      split
      · exact isWithinLimits_apply ih update
      · exact ih

theorem IsReached.id_eq (hreached : store.IsReached) {entry : MemoryEntry}
    (hentry : store.devices.get? id = some entry) : entry.device.id = id := by
  have hview : (store.view id).entry = some entry := hentry
  clear hentry
  induction hreached generalizing entry with
  | empty => cases hview
  | upserted _ device ih =>
      rw [view_upsertDevice] at hview
      split at hview
      · rename_i hid
        cases hview
        exact hid
      · exact ih hview
  | updated _ now update ih =>
      rw [view_run] at hview
      split at hview
      · cases update with
        | polled deviceId polledAt =>
            obtain ⟨old, hold, rfl⟩ := Option.map_eq_some_iff.1 hview
            have hid : old.device.id = id := ih hold
            exact hid
        | failure deviceId =>
            obtain ⟨old, hold, rfl⟩ := Option.map_eq_some_iff.1 hview
            have hid : old.device.id = id := ih hold
            exact hid
        | _ => exact ih hview
      · exact ih hview

theorem IsReached.isKeyed (hreached : store.IsReached) : store.devices.IsKeyed := by
  have hchanged {store : MemoryStore} (hkeyed : store.devices.IsKeyed) (id : Uuid)
      (change : MemoryEntry → MemoryEntry) : (store.changed id change).devices.IsKeyed := by
    unfold changed
    split
    · exact hkeyed.put _ _
    · exact hkeyed
  induction hreached with
  | empty => exact Table.isKeyed_empty
  | upserted _ device ih => exact ih.put _ _
  | updated _ now update ih =>
      cases update with
      | polled deviceId polledAt =>
          rw [run_polled]
          exact hchanged ih _ _
      | failure deviceId =>
          rw [run_failure]
          exact hchanged ih _ _
      | sessions tenantId deviceId batch =>
          show (MemoryStore.upsertSessions _ deviceId batch).devices.IsKeyed
          unfold upsertSessions
          split
          · exact ih
          · exact ih
      | history record => exact ih
      | metrics point => exact ih

end MemoryStore

/-! ### A small store -/

def Device.sample (number : BitVec 128) : Device where
  id := ⟨number⟩
  tenantId := .nil
  name := "router"
  managementIp := .v4 192 0 2 1
  vendor := none
  status := .active
  pollingEnabled := true
  pollingInterval := 60
  lastPolledAt := none
  capabilities := none
  roles := []

def MemoryStore.sample : MemoryStore :=
  (MemoryStore.empty.upsertDevice (.sample 1)).upsertDevice (.sample 2)

theorem MemoryStore.isReached_sample : MemoryStore.sample.IsReached := (IsReached.empty.upserted _).upserted _

end RouterPoll
