import RouterPoll.Proofs.Store.Calls
import RouterPoll.Proofs.Store.Written

/-!
# Two stores that agree

The store in memory and the database are told the same about devices: that one is put in, that one was polled, that a poll failed. As long as all times are whole milliseconds and the text of every address is read back, they answer alike, have the same descriptions, and list the same devices as due. What is kept through the calls is that the row of a device in the database is the row of its entry in memory.
-/

namespace RouterPoll

/-! ### Times and devices that a database keeps as they are -/

def Instant.IsWhole (instant : Instant) : Prop :=
  instant.IsOrdinary ∧ instant.nanos % 1000000 = 0

instance (instant : Instant) : Decidable instant.IsWhole := inferInstanceAs (Decidable (_ ∧ _))

theorem Instant.IsWhole.cut_eq {instant : Instant} (hwhole : instant.IsWhole) : instant.cut = instant := by
  have hnanos : instant.nanos / 1000000 * 1000000 = instant.nanos :=
    Nat.div_mul_cancel (Nat.dvd_of_mod_eq_zero hwhole.2)
  rw [cut, hnanos]

/-- A device with whole times, an interval that fits its width, and an address that is read back from its text. -/
structure Device.IsExact (device : Device) : Prop where
  interval : device.pollingInterval < Text.limit32
  lastPolledAt : ∀ last ∈ device.lastPolledAt, last.IsWhole
  address : Address.parse? device.managementIp.text = some device.managementIp

theorem Device.IsExact.isWritable {device : Device} (hexact : device.IsExact) : device.IsWritable where
  interval := hexact.interval
  lastPolledAt last hlast := Column.isReadable_toMillis (hexact.lastPolledAt last hlast).1

theorem DeviceRow.toDevice_of_isExact {device : Device} (hexact : device.IsExact) (failures : Cell)
    (clock : Instant) : (written device failures).toDevice clock = .ok device.bare := by
  rw [toDevice_written hexact.interval, Column.toAddress, hexact.address]
  have hlast : device.lastPolledAt.map (·.stored clock) = device.lastPolledAt := by
    cases hpolled : device.lastPolledAt with
    | none => rfl
    | some last =>
        have hwhole := hexact.lastPolledAt last hpolled
        exact congrArg some ((Column.toInstant_toMillis hwhole.1).trans hwhole.cut_eq)
  show Except.ok (device.asRead clock device.managementIp) = _
  rw [Device.asRead, hlast]
  rfl

/-- A call with whole times and devices that a database keeps as they are. -/
def DeviceCall.IsExact : DeviceCall → Prop
  | upsert device => device.IsExact
  | markPolled _ polledAt => polledAt.IsWhole
  | recordFailure _ => True

/-! ### What is found after a call -/

theorem MemoryStore.get?_changed (store : MemoryStore) (id : Uuid) (change : MemoryEntry → MemoryEntry)
    (other : Uuid) : (store.changed id change).devices.get? other
      = if id = other then (store.devices.get? other).map change else store.devices.get? other := by
  have hview := congrArg DeviceView.entry
    (view_changed change other : (store.changed id change).view other = _)
  rw [apply_ite DeviceView.entry] at hview
  exact hview

theorem MemoryStore.get?_upsertDevice (store : MemoryStore) (device : Device) (other : Uuid) :
    (store.upsertDevice device).devices.get? other
      = if device.id = other then some (mergedEntry device (store.devices.get? other))
        else store.devices.get? other := by
  have hview := congrArg DeviceView.entry
    (view_upsertDevice device other : (store.upsertDevice device).view other = _)
  rw [apply_ite DeviceView.entry] at hview
  exact hview

theorem Database.row?_upsertDevice (database : Database) (device : Device) (other : Uuid) :
    (database.upsertDevice device).row? other
      = if device.id = other then
          some (((database.row? other).map (·.replace (.ofDevice device))).getD (.ofDevice device))
        else database.row? other := by
  have hfound : (database.upsertDevice device).row? other = _ :=
    find?_upsert (fun _ _ => rfl) database.devices other.text
  have hid : ((DeviceRow.ofDevice device).id == other.text) = decide (device.id = other) := by
    rw [Bool.eq_iff_iff, beq_iff_eq, decide_eq_true_iff]
    exact ⟨fun htext => Uuid.text_injective htext, fun hsame => congrArg Uuid.text hsame⟩
  rw [hid] at hfound
  simp only [decide_eq_true_eq] at hfound
  exact hfound

/-! ### Calls that change an entry -/

theorem MemoryStore.run_markPolled (store : MemoryStore) (id : Uuid) (polledAt : Instant) :
    (DeviceCall.markPolled id polledAt).run store
      = (match store.devices.get? id with
          | some _ => .ok none
          | none => .error (.deviceNotFound id),
        store.changed id (·.polled polledAt)) := by
  unfold changed
  cases hentry : store.devices.get? id with
  | none =>
      simp only [DeviceCall.run, Store.markPolled, markPolled, modify_of_none _ hentry]
      rfl
  | some entry =>
      simp only [DeviceCall.run, Store.markPolled, markPolled, modify_of_some _ hentry]
      rfl

theorem MemoryStore.run_recordFailure (store : MemoryStore) (id : Uuid) :
    (DeviceCall.recordFailure id).run store
      = (match store.devices.get? id with
          | some entry => .ok (some entry.failed.failures)
          | none => .error (.deviceNotFound id),
        store.changed id (·.failed)) := by
  unfold changed
  cases hentry : store.devices.get? id with
  | none =>
      simp only [DeviceCall.run, Store.recordFailure, recordFailure, modify_of_none _ hentry]
      rfl
  | some entry =>
      simp only [DeviceCall.run, Store.recordFailure, recordFailure, modify_of_some _ hentry]
      rfl

theorem Database.run_markPolled (database : Database) (id : Uuid) (polledAt : Instant) :
    (DeviceCall.markPolled id polledAt).run database
      = (match database.row? id with
          | some _ => .ok none
          | none => .error (.deviceNotFound id),
        database.changed id (·.polled polledAt)) := by
  cases hrow : database.row? id with
  | none =>
      rw [changed_of_none _ hrow]
      simp only [DeviceCall.run, Store.markPolled, markPolled, modify, hrow]
      rfl
  | some row =>
      simp only [DeviceCall.run, Store.markPolled, markPolled, modify, hrow]
      rfl

theorem Database.run_recordFailure (database : Database) (id : Uuid) :
    (DeviceCall.recordFailure id).run database
      = (match database.row? id with
          | some row => (countOf (Text.limit32 - 1) row.failed).map some
          | none => .error (.deviceNotFound id),
        database.changed id (·.failed)) := by
  cases hrow : database.row? id with
  | none =>
      rw [changed_of_none _ hrow]
      simp only [DeviceCall.run, Store.recordFailure, recordFailure, modify, hrow]
      rfl
  | some row =>
      simp only [DeviceCall.run, Store.recordFailure, recordFailure, modify, hrow]
      rfl

/-! ### Agreement -/

def MemoryEntry.row (entry : MemoryEntry) : DeviceRow :=
  .written entry.device (.whole entry.failures)

/-- A store in memory and a database that were told the same. -/
structure Agree (calls : List DeviceCall) (store : MemoryStore) (database : Database) : Prop where
  reached : store.IsReached
  written : database.IsWritten
  rows : ∀ id, database.row? id = (store.devices.get? id).map MemoryEntry.row
  exact : ∀ id, ∀ entry ∈ store.devices.get? id,
    entry.device.IsExact ∧ entry.device.bare = entry.device
  failures : ∀ id, (store.devices.get? id).map (·.failures) = DeviceCall.streak id calls

theorem agree_empty (path : String) : Agree [] .empty (.create path) where
  reached := .empty
  written := Database.isWritten_create path
  rows _ := rfl
  exact _ entry hentry := by cases hentry
  failures _ := rfl

namespace Agree

variable {calls : List DeviceCall} {store : MemoryStore} {database : Database}

theorem device?_eq (hagree : Agree calls store database) (clock : Instant) (id : Uuid) :
    Store.readDevice? store clock id = Store.readDevice? database clock id := by
  rw [MemoryStore.device?_eq]
  show Except.ok ((store.devices.get? id).map _) = database.device? clock id
  unfold Database.device?
  rw [hagree.rows]
  cases hentry : store.devices.get? id with
  | none => rfl
  | some entry =>
      obtain ⟨hexact, hbare⟩ := hagree.exact id entry hentry
      show _ = (entry.row.toDevice clock).map some
      rw [MemoryEntry.row, DeviceRow.toDevice_of_isExact hexact, hbare]
      rfl

/-! #### Putting a device in -/

theorem row_mergedEntry (device : Device) (old : Option MemoryEntry) :
    (MemoryStore.mergedEntry device old).row
      = ((old.map MemoryEntry.row).map (·.replace (.ofDevice device))).getD (.ofDevice device) := by
  cases old with
  | none =>
      unfold MemoryStore.mergedEntry MemoryEntry.row DeviceRow.written DeviceRow.ofDevice
      simp [Device.bare]
  | some entry =>
      show _ = (DeviceRow.written entry.device (.whole entry.failures)).replace (.written device (.whole 0))
      rw [DeviceRow.replace_written]
      rfl

theorem upsert (hagree : Agree calls store database) {device : Device} (hexact : device.IsExact) :
    Agree (calls ++ [.upsert device]) (store.upsertDevice device) (database.upsertDevice device) where
  reached := hagree.reached.upserted device
  written := hagree.written.upsertDevice hexact.isWritable
  rows id := by
    rw [Database.row?_upsertDevice, MemoryStore.get?_upsertDevice, hagree.rows]
    split
    · exact congrArg some (row_mergedEntry device _).symm
    · rfl
  exact id entry hentry := by
    rw [MemoryStore.get?_upsertDevice] at hentry
    split at hentry
    · cases hentry
      refine ⟨⟨hexact.interval, ?_, hexact.address⟩, rfl⟩
      intro last hlast
      rcases Option.or_eq_some_iff.1 hlast with hnew | ⟨_, hold⟩
      · exact hexact.lastPolledAt last hnew
      · obtain ⟨old, hmem, hlast⟩ := Option.bind_eq_some_iff.1 hold
        exact (hagree.exact id old hmem).1.lastPolledAt last hlast
    · exact hagree.exact id entry hentry
  failures id := by
    rw [MemoryStore.get?_upsertDevice, DeviceCall.streak_append, DeviceCall.countFor, ← hagree.failures]
    split
    · rfl
    · rfl

/-! #### Marks and failures -/

theorem changed (hagree : Agree calls store database) (call : DeviceCall) (id : Uuid)
    (change : MemoryEntry → MemoryEntry) (changeRow : DeviceRow → DeviceRow)
    (hreached : (store.changed id change).IsReached) (hwritten : (database.changed id changeRow).IsWritten)
    (hrow : ∀ entry ∈ store.devices.get? id, changeRow entry.row = (change entry).row)
    (hid : ∀ row, (changeRow row).id = row.id)
    (hexact : ∀ entry : MemoryEntry, entry.device.IsExact ∧ entry.device.bare = entry.device →
      (change entry).device.IsExact ∧ (change entry).device.bare = (change entry).device)
    (hcount : ∀ other, (if id = other then (store.devices.get? other).map fun entry => (change entry).failures
      else (store.devices.get? other).map (·.failures))
        = DeviceCall.countFor other ((store.devices.get? other).map (·.failures)) call) :
    Agree (calls ++ [call]) (store.changed id change) (database.changed id changeRow) where
  reached := hreached
  written := hwritten
  rows other := by
    rw [Database.row?_changed hid, MemoryStore.get?_changed, hagree.rows]
    split
    · rename_i hsame
      subst hsame
      rw [Option.map_map, Option.map_map]
      exact Option.map_congr hrow
    · rfl
  exact other entry hentry := by
    rw [MemoryStore.get?_changed] at hentry
    split at hentry
    · obtain ⟨old, hold, rfl⟩ := Option.map_eq_some_iff.1 hentry
      exact hexact old (hagree.exact other old hold)
    · exact hagree.exact other entry hentry
  failures other := by
    rw [DeviceCall.streak_append, ← hagree.failures, ← hcount, MemoryStore.get?_changed]
    split
    · rw [Option.map_map]
      rfl
    · rfl

theorem markPolled (hagree : Agree calls store database) (id : Uuid) {polledAt : Instant}
    (hwhole : polledAt.IsWhole) :
    Agree (calls ++ [.markPolled id polledAt]) (store.changed id (·.polled polledAt))
      (database.changed id (·.polled polledAt)) := by
  have hreadable := Column.isReadable_toMillis hwhole.1
  refine hagree.changed _ id _ _ ?_ ?_ (fun _ _ => rfl) (fun _ => rfl) ?_ ?_
  · have hreached := hagree.reached.updated polledAt (.polled id polledAt)
    rwa [MemoryStore.run_polled] at hreached
  · exact hagree.written.changed (fun _ => rfl) fun row hrow => hrow.polled hreadable
  · rintro entry ⟨hexact, hbare⟩
    refine ⟨⟨hexact.interval, ?_, hexact.address⟩, ?_⟩
    · intro last hlast
      cases hlast
      exact hwhole
    · show _ = (entry.polled polledAt).device
      unfold MemoryEntry.polled
      rw [← hbare]
      rfl
  · intro other
    rw [DeviceCall.countFor, Option.map_map]
    rfl

theorem failures_failed {entry : MemoryEntry} (hcount : entry.failures + 1 < Text.limit32) :
    entry.failed.failures = entry.failures + 1 := by
  show min (entry.failures + 1) (Text.limit32 - 1) = entry.failures + 1
  omega

theorem failed_row {entry : MemoryEntry} (hcount : entry.failures + 1 < Text.limit32) :
    entry.row.failed = entry.failed.row := by
  rw [MemoryEntry.row, MemoryEntry.row, failures_failed hcount, ← Cell.plus_one hcount]
  rfl

theorem countOf_row {entry : MemoryEntry} (hcount : entry.failures < Text.limit32) (fallback : Nat) :
    Database.countOf fallback entry.row = .ok entry.failures := by
  show Except.ok (Column.toNat Text.limit32 fallback entry.failures) = _
  rw [Column.toNat, if_pos ⟨Int.natCast_nonneg _, Int.ofNat_lt.2 hcount⟩]
  rfl

/-- Both stores have counted as many failures as the calls say. -/
theorem failures_eq (hagree : Agree calls store database) {id : Uuid} {entry : MemoryEntry}
    (hentry : entry ∈ store.devices.get? id) : DeviceCall.streak id calls = some entry.failures := by
  rw [← hagree.failures, hentry]
  rfl

theorem lt_of_streak (hagree : Agree calls store database) {id : Uuid} {entry : MemoryEntry}
    (hentry : entry ∈ store.devices.get? id)
    (hcount : ∀ count ∈ DeviceCall.streak id (calls ++ [.recordFailure id]), count < Text.limit32) :
    entry.failures + 1 < Text.limit32 := by
  refine hcount _ ?_
  rw [DeviceCall.streak_append, hagree.failures_eq hentry, DeviceCall.countFor, if_pos rfl]
  rfl

theorem recordFailure (hagree : Agree calls store database) (id : Uuid)
    (hcount : ∀ count ∈ DeviceCall.streak id (calls ++ [.recordFailure id]), count < Text.limit32) :
    Agree (calls ++ [.recordFailure id]) (store.changed id (·.failed))
      (database.changed id (·.failed)) := by
  refine hagree.changed _ id _ _ ?_ ?_ ?_ (fun _ => rfl) (fun _ hexact => hexact) ?_
  · have hreached := hagree.reached.updated default (.failure id)
    rwa [MemoryStore.run_failure] at hreached
  · exact hagree.written.changed (fun _ => rfl) fun row hrow => hrow.failed
  · intro entry hentry
    exact failed_row (hagree.lt_of_streak hentry hcount)
  · intro other
    rw [DeviceCall.countFor]
    split
    · rename_i hsame
      subst hsame
      rw [Option.map_map]
      exact Option.map_congr fun entry hentry => failures_failed (hagree.lt_of_streak hentry hcount)
    · rfl

/-! #### One call and all calls -/

/-- Both stores answer a call as the calls before it say, and stay in agreement. -/
theorem run (hagree : Agree calls store database) {call : DeviceCall} (hexact : call.IsExact)
    (hcount : ∀ id, ∀ count ∈ DeviceCall.streak id (calls ++ [call]), count < Text.limit32) :
    (call.run store).1 = call.answer calls ∧ (call.run database).1 = call.answer calls
      ∧ Agree (calls ++ [call]) (call.run store).2 (call.run database).2 := by
  cases call with
  | upsert device => exact ⟨rfl, rfl, hagree.upsert hexact⟩
  | markPolled id polledAt =>
      rw [MemoryStore.run_markPolled, Database.run_markPolled, DeviceCall.answer, hagree.rows,
        ← hagree.failures]
      refine ⟨?_, ?_, hagree.markPolled id hexact⟩
      · cases store.devices.get? id <;> rfl
      · cases store.devices.get? id <;> rfl
  | recordFailure id =>
      have hnext := hagree.recordFailure id (hcount id)
      rw [MemoryStore.run_recordFailure, Database.run_recordFailure, DeviceCall.answer, hagree.rows]
      cases hentry : store.devices.get? id with
      | none =>
          rw [← hagree.failures, hentry]
          exact ⟨rfl, rfl, hnext⟩
      | some entry =>
          have hlt := hagree.lt_of_streak hentry (hcount id)
          have hread := countOf_row (show entry.failed.failures < _ by rwa [failures_failed hlt])
            (Text.limit32 - 1)
          rw [← failed_row hlt, failures_failed hlt] at hread
          rw [hagree.failures_eq hentry]
          simp only [Option.map_some]
          rw [hread, failures_failed hlt]
          exact ⟨rfl, rfl, hnext⟩

end Agree

/-! ### Listings -/

/-- The next poll of a device lies in the covered years, or it was never polled. -/
def Device.HasNext (device : Device) : Prop :=
  ∀ last ∈ device.lastPolledAt, (last.addSeconds device.pollingInterval).isSome = true

instance (device : Device) : Decidable device.HasNext :=
  inferInstanceAs (Decidable (∀ last ∈ device.lastPolledAt, _))

theorem Device.HasNext.isSome_isDue {device : Device} (hnext : device.HasNext) (now : Instant) :
    (device.isDue now).isSome = true := by
  unfold isDue
  split
  · rfl
  · cases hlast : device.lastPolledAt with
    | none => rfl
    | some last =>
        rw [Option.isSome_map]
        exact hnext last hlast

namespace Agree

variable {calls : List DeviceCall} {store : MemoryStore} {database : Database}

theorem listDue_memory (hagree : Agree calls store database)
    {now : Instant} (hnext : ∀ device, Store.readDevice? store now device.id = .ok (some device) → device.HasNext)
    (limit : Nat) : ∃ devices, store.listDue now limit = .listed devices := by
  have hall : (store.devices.values.map (·.device)).all (fun device => (device.isDue now).isSome) = true := by
    rw [List.all_eq_true]
    intro device hmem
    exact (hnext device ((hagree.reached.mem_devices_iff now device).1 hmem)).isSome_isDue now
  rw [MemoryStore.listDue, MemoryStore.dueAmong_eq, if_pos hall]
  exact ⟨_, rfl⟩

theorem exists_entry (hagree : Agree calls store database) {row : DeviceRow}
    (hmem : row ∈ database.devices) : ∃ id, ∃ entry ∈ store.devices.get? id, row = entry.row := by
  obtain ⟨id, hid⟩ := (hagree.written.rows row hmem).isSound.id
  have hrow : database.row? id = some row := by
    have hfound := find?_of_mem hagree.written.ids hmem
    rwa [hid] at hfound
  rw [hagree.rows] at hrow
  obtain ⟨entry, hentry, rfl⟩ := Option.map_eq_some_iff.1 hrow
  exact ⟨id, entry, hentry, rfl⟩

theorem listDue_database (hagree : Agree calls store database) (clocks : Nat → Instant) (now : Instant)
    (limit : Nat) : ∃ devices, database.listDue clocks now limit = .listed devices := by
  refine Database.exists_listed (fun row hmem clock => ?_) clocks limit
  obtain ⟨id, entry, hentry, rfl⟩ := hagree.exists_entry (Database.mem_dueRows.1 hmem).1
  exact ⟨_, DeviceRow.toDevice_of_isExact (hagree.exact id entry hentry).1 _ clock⟩

theorem listDue_eq (hagree : Agree calls store database) {now : Instant} (hwhole : now.IsWhole)
    (hnext : ∀ device, Store.readDevice? store now device.id = .ok (some device) → device.HasNext) :
    ∃ due, IsDueList store now due ∧ ∀ clocks limit,
      Store.readDue store clocks now limit = .listed (due.take limit)
        ∧ Store.readDue database clocks now limit = .listed (due.take limit) := by
  have hdue := MemoryStore.isDueList hagree.reached now
  have hother := hagree.written.isDueList hwhole.1 now
  rw [hwhole.cut_eq] at hother
  have hsame := hdue.unique (hother.congr fun clock id => (hagree.device?_eq clock id).symm)
  refine ⟨_, hdue, fun clocks limit => ⟨?_, ?_⟩⟩
  · obtain ⟨devices, hlisted⟩ := hagree.listDue_memory hnext limit
    show store.listDue now limit = _
    rw [hlisted, MemoryStore.listDue_eq hlisted]
  · obtain ⟨devices, hlisted⟩ := hagree.listDue_database clocks now limit
    show database.listDue clocks now limit = _
    rw [hlisted, hagree.written.eq_take_of_listed hlisted now, hsame]

end Agree

/-- Told the same, the store in memory and the database answer every call alike, as the calls before it say, have the same descriptions of all devices, and list the same devices as due: the first ones of the due list. That has exactly the devices that are enabled and active and were never polled or whose next poll is before now, in the order of listings. -/
theorem devices_agree {path : String} {calls : List DeviceCall}
    {answers others : List (Except StorageError (Option Nat))} {store : MemoryStore} {database : Database}
    (hexact : ∀ call ∈ calls, call.IsExact)
    (hcount : ∀ front, front <+: calls → ∀ id, ∀ count ∈ DeviceCall.streak id front,
      count < Text.limit32)
    (hmemory : runAll DeviceCall.run MemoryStore.empty calls = (answers, store))
    (hdatabase : runAll DeviceCall.run (Database.create path) calls = (others, database)) :
    answers = answersTo DeviceCall.answer [] calls ∧ others = answersTo DeviceCall.answer [] calls
      ∧ (∀ clock id, Store.readDevice? store clock id = Store.readDevice? database clock id)
      ∧ ∀ now : Instant, now.IsWhole →
        (∀ device, Store.readDevice? store now device.id = .ok (some device) → device.HasNext) →
        ∃ due, IsDueList store now due
          ∧ (∀ device, device ∈ due ↔ Store.readDevice? store now device.id = .ok (some device)
            ∧ device.pollingEnabled = true ∧ device.status = .active
            ∧ ∀ last ∈ device.lastPolledAt, ∃ next,
              last.addSeconds device.pollingInterval = some next ∧ next.before now = true)
          ∧ ∀ clocks limit, Store.readDue store clocks now limit = .listed (due.take limit)
            ∧ Store.readDue database clocks now limit = .listed (due.take limit) := by
  obtain ⟨hanswers, hothers, hagree⟩ := runAll_related Agree
    (fun hfront hagree => hagree.run (hexact _ (mem_of_front hfront)) (hcount _ hfront)) (agree_empty path)
  rw [hmemory] at hanswers hagree
  rw [hdatabase] at hothers hagree
  refine ⟨hanswers, hothers, hagree.device?_eq, fun now hwhole hnext => ?_⟩
  obtain ⟨due, hdue, hlisted⟩ := hagree.listDue_eq hwhole hnext
  refine ⟨due, hdue, fun device => ?_, hlisted⟩
  rw [hdue.mem_iff, Device.isDue_iff]
  exact and_congr_left fun _ => ⟨fun hstored => hstored now, fun hstored _ => hstored⟩

/-! ### Two devices -/

/-- A device fails once and is then polled; it keeps its last poll when it is put in again. The other one is put in after a failure that is not counted. -/
def DeviceCall.samples : List DeviceCall :=
  [.upsert (.sample 1), .recordFailure ⟨1⟩, .markPolled ⟨1⟩ ⟨1000, 500000000⟩, .recordFailure ⟨2⟩,
    .upsert (.sample 2), .upsert { Device.sample 1 with name := "renamed" }]

/-- The two stores after these calls. -/
theorem devices_agree_samples : ∃ (answers : List (Except StorageError (Option Nat)))
    (store : MemoryStore) (database : Database) (due : List Device),
    runAll DeviceCall.run MemoryStore.empty DeviceCall.samples = (answers, store)
      ∧ runAll DeviceCall.run (Database.create "poll.db") DeviceCall.samples = (answers, database)
      ∧ answers = [.ok none, .ok (some 1), .ok none, .error (.deviceNotFound ⟨2⟩), .ok none, .ok none]
      ∧ (∀ clock id, Store.readDevice? store clock id = Store.readDevice? database clock id)
      ∧ (∀ clocks limit, Store.readDue store clocks ⟨1061, 0⟩ limit = .listed (due.take limit)
        ∧ Store.readDue database clocks ⟨1061, 0⟩ limit = .listed (due.take limit))
      ∧ due.take 2 = [.sample 2, { Device.sample 1 with
        name := "renamed", lastPolledAt := some ⟨1000, 500000000⟩ }] := by
  have haddress : Address.parse? (Device.sample 1).managementIp.text
      = some (Device.sample 1).managementIp := by decide +kernel
  have hdevice (number : BitVec 128) (name : String) : { Device.sample number with name }.IsExact :=
    ⟨(by decide : 60 < Text.limit32), (fun last hlast => by cases hlast), haddress⟩
  have hexact : ∀ call ∈ DeviceCall.samples, call.IsExact := by
    simp only [DeviceCall.samples, List.forall_mem_cons, List.not_mem_nil, false_implies, implies_true,
      and_true]
    exact ⟨hdevice 1 "router", trivial, (by decide : Instant.IsWhole ⟨1000, 500000000⟩), trivial,
      hdevice 2 "router", hdevice 1 "renamed"⟩
  have hcount : ∀ front, front <+: DeviceCall.samples → ∀ id, ∀ count ∈ DeviceCall.streak id front,
      count < Text.limit32 := by
    intro front hfront id count hmem
    have hle := DeviceCall.le_length_of_mem_streak hmem
    have hlength := hfront.length_le
    have hsix : DeviceCall.samples.length < Text.limit32 := by decide
    omega
  rcases hmemory : runAll DeviceCall.run MemoryStore.empty DeviceCall.samples with ⟨answers, store⟩
  rcases hdatabase : runAll DeviceCall.run (Database.create "poll.db") DeviceCall.samples
    with ⟨others, database⟩
  obtain ⟨hanswers, hothers, hsame, hlisted⟩ := devices_agree hexact hcount hmemory hdatabase
  have hnow : (⟨1061, 0⟩ : Instant).IsWhole := by decide
  have hstore : store = (runAll DeviceCall.run MemoryStore.empty DeviceCall.samples).2 := by rw [hmemory]
  have hknown : ∀ device ∈ store.devices.values.map (·.device), device.HasNext := by
    rw [hstore]
    decide +kernel
  have hnext : ∀ device, Store.readDevice? store ⟨1061, 0⟩ device.id = .ok (some device) → device.HasNext := by
    intro device hstored
    rw [MemoryStore.device?_eq] at hstored
    obtain ⟨entry, hentry, rfl⟩ := Option.map_eq_some_iff.1 (Except.ok.inj hstored)
    exact hknown _ (List.mem_map_of_mem (Table.mem_values_of_get? hentry))
  obtain ⟨due, _, _, hdue⟩ := hlisted ⟨1061, 0⟩ hnow hnext
  have hfirst : Store.readDue (runAll DeviceCall.run MemoryStore.empty DeviceCall.samples).2
      (fun _ => ⟨1061, 0⟩) ⟨1061, 0⟩ 2 = .listed [.sample 2, { Device.sample 1 with
        name := "renamed", lastPolledAt := some ⟨1000, 500000000⟩ }] := by
    rw [MemoryStore.eq_byInsertion]
    decide +kernel
  rw [← hstore, (hdue _ 2).1] at hfirst
  exact ⟨answers, store, database, due, rfl, by rw [hanswers, hothers], hanswers, hsame, hdue,
    Listing.listed.inj hfirst⟩

end RouterPoll
