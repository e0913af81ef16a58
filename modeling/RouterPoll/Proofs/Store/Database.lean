import Mathlib.Data.List.Nodup
import RouterPoll.Proofs.Store.Lawful
import RouterPoll.Proofs.Store.Row
import RouterPoll.Store.Database

/-!
# The database as a lawful store

The rows of devices in a database are sound, and no id stands in two of them, as long as only the store writes to it. Then the database keeps the laws of a store, with times cut to whole milliseconds.
-/

namespace RouterPoll

theorem Cell.plus_one {count : Nat} (hcount : count + 1 < Text.limit32) :
    ((Cell.whole count).plus (.whole 1)).inWholeColumn = .whole (count + 1 : Nat) := by
  have hfits : Quantity.fits (count + 1) = true := by
    unfold Text.limit32 at hcount
    rw [Quantity.fits_iff]
    omega
  show (Quantity.combine (· + ·) (· + ·) (.whole count) (.whole 1)).inWholeColumn = _
  simp only [Quantity.combine, hfits, if_true]
  rfl

namespace DeviceRow

def polled (row : DeviceRow) (polledAt : Instant) : DeviceRow :=
  { row with lastPolledAt := .whole polledAt.toMillis, failures := .whole 0 }

def failed (row : DeviceRow) : DeviceRow :=
  { row with failures := (row.failures.plus (.whole 1)).inWholeColumn }

variable {row : DeviceRow} {device : Device} {clock : Instant}

theorem isSound_ofDevice (hinterval : device.pollingInterval < Text.limit32)
    (hlast : ∀ last ∈ device.lastPolledAt, last.IsCovered) : (ofDevice device).IsSound where
  id := ⟨device.id, rfl⟩
  interval := ⟨device.pollingInterval, hinterval, rfl⟩
  lastPolledAt := by
    refine ⟨_, rfl, ?_⟩
    intro millis hmillis
    obtain ⟨last, hmem, rfl⟩ := Option.map_eq_some_iff.1 hmillis
    exact Column.isCovered_toMillis (hlast last hmem)

theorem IsSound.replace {old new : DeviceRow} (hnew : new.IsSound) (hold : old.IsSound) :
    (old.replace new).IsSound where
  id := hnew.id
  interval := hnew.interval
  lastPolledAt := by
    obtain ⟨last, hlast, hcovered⟩ := hnew.lastPolledAt
    cases last with
    | none =>
        rw [DeviceRow.replace, hlast]
        exact hold.lastPolledAt
    | some millis =>
        rw [DeviceRow.replace, hlast]
        exact ⟨some millis, rfl, hcovered⟩

theorem IsSound.polled (hsound : row.IsSound) {polledAt : Instant} (hcovered : polledAt.IsCovered) :
    (row.polled polledAt).IsSound where
  id := hsound.id
  interval := hsound.interval
  lastPolledAt := by
    refine ⟨some polledAt.toMillis, rfl, ?_⟩
    intro millis hmillis
    cases hmillis
    exact Column.isCovered_toMillis hcovered

theorem IsSound.failed (hsound : row.IsSound) : row.failed.IsSound where
  id := hsound.id
  interval := hsound.interval
  lastPolledAt := hsound.lastPolledAt

theorem toDevice_failed (row : DeviceRow) : row.failed.toDevice clock = row.toDevice clock := rfl

theorem toDevice_polled (hdevice : row.toDevice clock = .ok device) (polledAt : Instant) :
    (row.polled polledAt).toDevice clock
      = .ok { device with lastPolledAt := some (polledAt.stored clock) } := by
  unfold toDevice at hdevice
  obtain ⟨interval, hinterval, hdevice⟩ := bind_eq_ok.1 hdevice
  obtain ⟨last, hlast, hdevice⟩ := bind_eq_ok.1 hdevice
  obtain ⟨id, hid, hdevice⟩ := bind_eq_ok.1 hdevice
  obtain ⟨tenantId, htenantId, hdevice⟩ := bind_eq_ok.1 hdevice
  obtain ⟨address, haddress, hdevice⟩ := bind_eq_ok.1 hdevice
  obtain ⟨status, hstatus, hdevice⟩ := bind_eq_ok.1 hdevice
  obtain ⟨enabled, henabled, hdevice⟩ := bind_eq_ok.1 hdevice
  cases hdevice
  unfold toDevice polled
  simp only [hinterval, hid, htenantId, haddress, hstatus, henabled]
  rfl

/-- A row that can be read under one clock can be read under another one. -/
theorem exists_toDevice (hdevice : row.toDevice clock = .ok device) (other : Instant) :
    ∃ again, row.toDevice other = .ok again ∧ again.id = device.id := by
  unfold toDevice at hdevice
  obtain ⟨interval, hinterval, hdevice⟩ := bind_eq_ok.1 hdevice
  obtain ⟨last, hlast, hdevice⟩ := bind_eq_ok.1 hdevice
  obtain ⟨id, hid, hdevice⟩ := bind_eq_ok.1 hdevice
  obtain ⟨tenantId, htenantId, hdevice⟩ := bind_eq_ok.1 hdevice
  obtain ⟨address, haddress, hdevice⟩ := bind_eq_ok.1 hdevice
  obtain ⟨status, hstatus, hdevice⟩ := bind_eq_ok.1 hdevice
  obtain ⟨enabled, henabled, hdevice⟩ := bind_eq_ok.1 hdevice
  cases hdevice
  unfold toDevice
  simp only [hinterval, hlast, hid, htenantId, haddress, hstatus, henabled]
  exact ⟨_, rfl, rfl⟩

end DeviceRow

namespace Database

variable {database : Database} {clock : Instant} {id : Uuid}

theorem id_eq_of_row? {row : DeviceRow} (hrow : database.row? id = some row) : row.id = id.text := by
  unfold row? at hrow
  have hbeq := List.find?_some hrow
  exact beq_iff_eq.1 hbeq

def changed (database : Database) (id : Uuid) (change : DeviceRow → DeviceRow) : Database :=
  { database with
    devices := database.devices.map fun row => if row.id == id.text then change row else row }

theorem changed_of_none (change : DeviceRow → DeviceRow) (hnone : database.row? id = none) :
    database.changed id change = database := by
  have hother : ∀ row ∈ database.devices,
      (if row.id == id.text then change row else row) = row := by
    intro row hmem
    exact if_neg (List.find?_eq_none.1 hnone row hmem)
  unfold changed
  rw [List.map_congr_left hother, List.map_id']

theorem row?_changed {change : DeviceRow → DeviceRow} (hid : ∀ row, (change row).id = row.id)
    (other : Uuid) : (database.changed id change).row? other
      = if id = other then (database.row? other).map change else database.row? other := by
  have hkeep (row : DeviceRow) : (if row.id == id.text then change row else row).id = row.id := by
    split
    · exact hid row
    · rfl
  have hfound : (database.changed id change).row? other
      = (database.row? other).map fun row => if row.id == id.text then change row else row := by
    unfold row? changed
    rw [List.find?_map]
    simp only [Function.comp_def, hkeep]
  rw [hfound]
  cases hrow : database.row? other with
  | none => simp
  | some row =>
      have htext : row.id = other.text := id_eq_of_row? hrow
      by_cases hsame : id = other
      · subst hsame
        simp [htext]
      · have hne : other.text ≠ id.text := fun hequal => hsame (Uuid.text_injective hequal).symm
        simp [htext, hne, hsame]

theorem map_id_changed {change : DeviceRow → DeviceRow} (hid : ∀ row, (change row).id = row.id) :
    (database.changed id change).devices.map (·.id) = database.devices.map (·.id) := by
  unfold Database.changed
  rw [List.map_map]
  refine List.map_congr_left ?_
  intro row _
  show (if row.id == id.text then change row else row).id = row.id
  split
  · exact hid row
  · rfl

theorem run_polled (now polledAt : Instant) :
    ((StoreUpdate.polled id polledAt).run now database).2 = database.changed id (·.polled polledAt) := by
  cases hrow : database.row? id with
  | none =>
      rw [changed_of_none _ hrow]
      simp only [StoreUpdate.run, Store.markPolled, markPolled, modify, hrow]
      rfl
  | some row =>
      simp only [StoreUpdate.run, Store.markPolled, markPolled, modify, hrow]
      rfl

theorem run_failure (now : Instant) :
    ((StoreUpdate.failure id).run now database).2 = database.changed id (·.failed) := by
  cases hrow : database.row? id with
  | none =>
      rw [changed_of_none _ hrow]
      simp only [StoreUpdate.run, Store.recordFailure, recordFailure, modify, hrow]
      rfl
  | some row =>
      simp only [StoreUpdate.run, Store.recordFailure, recordFailure, modify, hrow]
      rfl

theorem device?_changed (change : DeviceRow → DeviceRow) (hid : ∀ row, (change row).id = row.id)
    {other : Uuid} {row : DeviceRow} (hrow : database.row? other = some row) :
    (database.changed id change).device? clock other
      = if id = other then ((change row).toDevice clock).map some else (row.toDevice clock).map some := by
  unfold device?
  rw [row?_changed hid, hrow]
  by_cases hsame : id = other
  · rw [if_pos hsame, if_pos hsame]
    rfl
  · rw [if_neg hsame, if_neg hsame]

theorem devices_run (now : Instant) (update : StoreUpdate) (database : Database) :
    (update.run now database).2.devices = match update with
      | .polled id polledAt => (database.changed id (·.polled polledAt)).devices
      | .failure id => (database.changed id (·.failed)).devices
      | _ => database.devices := by
  cases update with
  | history record => rfl
  | polled deviceId polledAt => rw [run_polled]
  | metrics point => rfl
  | sessions tenantId deviceId batch => cases batch <;> rfl
  | failure deviceId => rw [run_failure]

/-! ### Sound databases -/

/-- A database that only the store writes to. -/
structure IsSound (database : Database) : Prop where
  rows : ∀ row ∈ database.devices, row.IsSound
  ids : (database.devices.map (·.id)).Nodup

theorem isSound_create (path : String) : (create path).IsSound where
  rows row hmem := by cases hmem
  ids := List.nodup_nil

theorem IsSound.upsertDevice (hsound : database.IsSound) {device : Device}
    (hinterval : device.pollingInterval < Text.limit32)
    (hlast : ∀ last ∈ device.lastPolledAt, last.IsCovered) :
    (database.upsertDevice device).IsSound where
  rows row hmem := by
    have hnew := DeviceRow.isSound_ofDevice hinterval hlast
    rcases mem_upsert hmem with hold | rfl | ⟨old, hold, _, rfl⟩
    · exact hsound.rows row hold
    · exact hnew
    · exact hnew.replace (hsound.rows old hold)
  ids := nodup_upsert (fun _ _ => rfl) hsound.ids

theorem IsSound.changed (hsound : database.IsSound) {change : DeviceRow → DeviceRow}
    (hid : ∀ row, (change row).id = row.id) (hchange : ∀ row, row.IsSound → (change row).IsSound) :
    (database.changed id change).IsSound where
  rows row hmem := by
    obtain ⟨old, hold, rfl⟩ := List.mem_map.1 hmem
    have hsoundOld := hsound.rows old hold
    split
    · exact hchange old hsoundOld
    · exact hsoundOld
  ids := by
    rw [map_id_changed hid]
    exact hsound.ids

theorem IsSound.run (hsound : database.IsSound) (now : Instant) {update : StoreUpdate}
    (hdated : update.IsDated) : (update.run now database).2.IsSound := by
  have hdevices := devices_run now update database
  cases update with
  | polled deviceId polledAt =>
      rw [run_polled]
      exact hsound.changed (fun _ => rfl) fun row hrow => hrow.polled hdated
  | failure deviceId =>
      rw [run_failure]
      exact hsound.changed (fun _ => rfl) fun row hrow => hrow.failed
  | _ => exact ⟨by rw [hdevices]; exact hsound.rows, by rw [hdevices]; exact hsound.ids⟩

theorem IsSound.device?_of_mem (hsound : database.IsSound) {row : DeviceRow} {device : Device}
    (hmem : row ∈ database.devices) (hdevice : row.toDevice clock = .ok device) :
    database.device? clock device.id = .ok (some device) := by
  have hrow : database.row? device.id = some row := by
    have hfound := find?_of_mem hsound.ids hmem
    rwa [(hsound.rows row hmem).id_eq hdevice] at hfound
  rw [device?, hrow]
  show (row.toDevice clock).map some = _
  rw [hdevice]
  rfl

/-- The rows that are due at a time, in the order of listings. -/
def dueRows (database : Database) (nowMillis : Int) : List DeviceRow :=
  (database.devices.filter fun row => row.isDue nowMillis).mergeSort DeviceRow.notAfter

theorem mem_dueRows {nowMillis : Int} {row : DeviceRow} :
    row ∈ database.dueRows nowMillis ↔ row ∈ database.devices ∧ row.isDue nowMillis = true := by
  rw [dueRows, List.mem_mergeSort, List.mem_filter]

theorem toDevices_of_listed {clocks : Nat → Instant} {now : Instant} {limit : Nat} {devices : List Device}
    (hlisted : database.listDue clocks now limit = .listed devices) :
    DeviceRow.toDevices clocks ((database.dueRows now.toMillis).take limit) = .ok devices := by
  simp only [listDue] at hlisted
  split at hlisted
  · rename_i found hread
    cases hlisted
    exact hread
  · cases hlisted

theorem exists_listed {now : Instant}
    (hread : ∀ row ∈ database.dueRows now.toMillis, ∀ clock, ∃ device, row.toDevice clock = .ok device)
    (clocks : Nat → Instant) (limit : Nat) : ∃ devices, database.listDue clocks now limit = .listed devices := by
  have hplaced : ∀ item ∈ ((database.dueRows now.toMillis).take limit).zipIdx,
      ∃ device, item.1.toDevice (clocks item.2) = .ok device := fun item hmem =>
    hread item.1 (List.mem_of_mem_take (List.fst_mem_of_mem_zipIdx hmem)) _
  obtain ⟨devices, hdevices⟩ := exists_mapM_ok hplaced
  change DeviceRow.toDevices clocks ((database.dueRows now.toMillis).take limit) = .ok devices at hdevices
  unfold dueRows at hdevices
  exact ⟨devices, by simp only [listDue, hdevices]⟩

theorem map_id_of_listed {clocks : Nat → Instant} {now : Instant} {limit : Nat} {devices : List Device}
    (hlisted : database.listDue clocks now limit = .listed devices)
    (hid : ∀ row ∈ database.dueRows now.toMillis, ∀ clock device, row.toDevice clock = .ok device →
      device.id.text = row.id) :
    devices.map (·.id.text) = ((database.dueRows now.toMillis).take limit).map (·.id) := by
  have hplaces : devices.map (·.id.text)
      = ((database.dueRows now.toMillis).take limit).zipIdx.map (DeviceRow.id ∘ Prod.fst) :=
    map_eq_of_mapM_ok (toDevices_of_listed hlisted) fun item hmem device hdevice =>
      hid item.1 (List.mem_of_mem_take (List.fst_mem_of_mem_zipIdx hmem)) _ device hdevice
  rw [hplaces, ← List.map_map, List.zipIdx_map_fst]

/-- What was listed can be looked up later, and is due then as it was. -/
theorem IsSound.due_of_listed (hsound : database.IsSound) {clocks : Nat → Instant} {now : Instant}
    (hnow : now.IsOrdinary) {limit : Nat} {devices : List Device}
    (hlisted : database.listDue clocks now limit = .listed devices) {device : Device} (hmem : device ∈ devices)
    (clock : Instant) :
    ∃ stored, database.device? clock device.id = .ok (some stored) ∧ stored.isDue now = some true := by
  obtain ⟨⟨row, place⟩, hplace, hdevice⟩ := mem_of_mapM_ok (toDevices_of_listed hlisted) hmem
  obtain ⟨hin, hdue⟩ := mem_dueRows.1 (List.mem_of_mem_take (List.fst_mem_of_mem_zipIdx hplace))
  obtain ⟨stored, hstored, hid⟩ := DeviceRow.exists_toDevice hdevice clock
  rw [← hid]
  exact ⟨stored, hsound.device?_of_mem hin hstored, (hsound.rows row hin).isDue hstored hnow hdue⟩

theorem IsSound.nodup_of_listed (hsound : database.IsSound) {clocks : Nat → Instant} {now : Instant}
    {limit : Nat} {devices : List Device} (hlisted : database.listDue clocks now limit = .listed devices) :
    (devices.map (·.id)).Nodup := by
  have hdue : ((database.dueRows now.toMillis).map (·.id)).Nodup :=
    ((List.mergeSort_perm _ _).map _).nodup_iff.2 (hsound.ids.sublist (List.filter_sublist.map _))
  have htaken := hdue.sublist ((List.take_sublist limit _).map _)
  have htexts := map_id_of_listed hlisted fun row hrow _ device hdevice =>
    ((hsound.rows row (mem_dueRows.1 hrow).1).id_eq hdevice).symm
  rw [← htexts, ← Function.comp_def, ← List.map_map] at htaken
  exact List.Nodup.of_map _ htaken

theorem exists_row {stored : Device} (hstored : database.device? clock id = .ok (some stored)) :
    ∃ row, database.row? id = some row ∧ row.toDevice clock = .ok stored := by
  unfold device? at hstored
  split at hstored
  · cases hstored
  · rename_i row hrow
    cases hdevice : row.toDevice clock with
    | error error =>
        rw [hdevice] at hstored
        cases hstored
    | ok device =>
        rw [hdevice] at hstored
        cases hstored
        exact ⟨row, hrow, hdevice⟩

instance : LawfulStore Database where
  IsSound := IsSound
  kept clock instant := instant.stored clock
  isSound_run now _ hdated hsound := hsound.run now hdated
  due_of_listed hsound hnow hlisted hmem := hsound.due_of_listed hnow hlisted hmem
  nodup_of_listed hsound hlisted := hsound.nodup_of_listed hlisted
  device?_of_other {store clock now update id stored} _ hother hstored := by
    obtain ⟨row, hrow, hdevice⟩ := exists_row hstored
    cases update with
    | polled deviceId polledAt =>
        have hne : deviceId ≠ id := fun hsame => hother polledAt (by rw [hsame])
        rw [run_polled]
        show Database.device? _ clock id = _
        rw [device?_changed (·.polled polledAt) (fun _ => rfl) hrow, if_neg hne, hdevice]
        rfl
    | failure deviceId =>
        rw [run_failure]
        show Database.device? _ clock id = _
        rw [device?_changed (·.failed) (fun _ => rfl) hrow, DeviceRow.toDevice_failed, hdevice, ite_self]
        rfl
    | sessions tenantId deviceId batch =>
        have hdevices := devices_run now (.sessions tenantId deviceId batch) store
        rw [← hstored]
        show Database.device? _ clock id = Database.device? store clock id
        unfold device? row?
        rw [hdevices]
    | history record => exact hstored
    | metrics point => exact hstored
  device?_of_polled {store clock now polledAt id stored} _ _ hstored := by
    obtain ⟨row, hrow, hdevice⟩ := exists_row hstored
    rw [run_polled]
    show Database.device? _ clock id = _
    rw [device?_changed (·.polled polledAt) (fun _ => rfl) hrow, if_pos rfl,
      DeviceRow.toDevice_polled hdevice]
    rfl

end Database

end RouterPoll
