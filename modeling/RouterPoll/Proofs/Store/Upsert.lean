import RouterPoll.Proofs.Device.Document
import RouterPoll.Proofs.Net.Address
import RouterPoll.Proofs.Store.Agreement
import RouterPoll.Proofs.Store.Point
import RouterPoll.Proofs.Store.Roles

/-!
# Putting a device into a database

What a database has of a device is what the device was last put in with, in three tables: its row, one document with its capabilities, and a row for each of its roles. Only the failures are kept, and the time of the last poll where the device brings none. Times are kept in milliseconds, which pass over leap seconds: a time in a leap second comes back in the second after it, or as what the clock of the reader shows, where there is no such second. All this holds over whatever stood in the tables before, as long as the rows of devices were written by the store, so that the time that was there can be read.
-/

namespace RouterPoll

structure Device.Fits (device : Device) : Prop where
  interval : device.pollingInterval < Text.limit32
  capabilities : ∀ set ∈ device.capabilities, set.Fits
  roles : ∀ role ∈ device.roles, role.Fits

/-! ### The row of a device -/

namespace DeviceRow

variable {device : Device} {row : DeviceRow} {clock : Instant}

theorem toDevice_of_fits (hinterval : device.pollingInterval < Text.limit32) (failures : Cell) :
    (written device failures).toDevice clock
      = .ok { device.bare with lastPolledAt := device.lastPolledAt.map (·.stored clock) } := by
  rw [toDevice_written hinterval, Column.toAddress, Address.parse?_text]
  rfl

/-- A row that the store wrote for some device, whatever its times are. -/
def IsKept (row : DeviceRow) : Prop :=
  ∃ (device : Device) (failures : Cell), device.pollingInterval < Text.limit32
    ∧ row = written device failures

theorem isKept_ofDevice (hinterval : device.pollingInterval < Text.limit32) : (ofDevice device).IsKept :=
  ⟨device, .whole 0, hinterval, rfl⟩

theorem IsKept.replace (hkept : row.IsKept) (hinterval : device.pollingInterval < Text.limit32) :
    (row.replace (ofDevice device)).IsKept := by
  obtain ⟨known, failures, _, rfl⟩ := hkept
  refine ⟨{ device with lastPolledAt := device.lastPolledAt.or known.lastPolledAt }, failures, hinterval, ?_⟩
  exact replace_written known device failures (.whole 0)

theorem IsKept.polled (hkept : row.IsKept) (polledAt : Instant) : (row.polled polledAt).IsKept := by
  obtain ⟨known, failures, hinterval, rfl⟩ := hkept
  exact ⟨{ known with lastPolledAt := some polledAt }, .whole 0, hinterval, rfl⟩

theorem IsKept.failed (hkept : row.IsKept) : row.failed.IsKept := by
  obtain ⟨known, failures, hinterval, rfl⟩ := hkept
  exact ⟨known, _, hinterval, rfl⟩

theorem IsKept.toDevice_replace (hkept : row.IsKept) (hinterval : device.pollingInterval < Text.limit32)
    (clock : Instant) :
    ∃ known, row.toDevice clock = .ok known ∧ (row.replace (ofDevice device)).toDevice clock
      = .ok { device.bare with
        lastPolledAt := (device.lastPolledAt.map (·.stored clock)).or known.lastPolledAt } := by
  obtain ⟨old, failures, holdInterval, rfl⟩ := hkept
  refine ⟨_, toDevice_of_fits holdInterval failures, ?_⟩
  have hnew : ({ device with lastPolledAt := device.lastPolledAt.or old.lastPolledAt } : Device).pollingInterval
      < Text.limit32 := hinterval
  show ((written old failures).replace (written device (.whole 0))).toDevice clock = _
  rw [replace_written, toDevice_of_fits hnew, Option.map_or]
  rfl

end DeviceRow

namespace Database

/-- The databases that the operations of the store lead to. -/
inductive IsReached : Database → Prop where
  | created (path : String) : IsReached (create path)
  | upserted {database : Database} (hreached : IsReached database) {device : Device} (hfits : device.Fits) :
      IsReached (database.upsertDevice device)
  | updated {database : Database} (hreached : IsReached database) (now : Instant) (update : StoreUpdate) :
      IsReached (update.run now database).2

variable {database : Database} {device : Device}

theorem isKept_changed {id : Uuid} {change : DeviceRow → DeviceRow}
    (hkept : ∀ row ∈ database.devices, row.IsKept) (hchange : ∀ row : DeviceRow, row.IsKept → (change row).IsKept) :
    ∀ row ∈ (database.changed id change).devices, row.IsKept := by
  intro row hmem
  obtain ⟨old, hold, rfl⟩ := List.mem_map.1 hmem
  split
  · exact hchange old (hkept old hold)
  · exact hkept old hold

theorem isKept_upsertDevice (hkept : ∀ row ∈ database.devices, row.IsKept)
    (hinterval : device.pollingInterval < Text.limit32) :
    ∀ row ∈ (database.upsertDevice device).devices, row.IsKept := by
  intro row hmem
  rcases mem_upsert hmem with hold | rfl | ⟨old, hold, _, rfl⟩
  · exact hkept row hold
  · exact DeviceRow.isKept_ofDevice hinterval
  · exact (hkept old hold).replace hinterval

theorem IsReached.isKept (hreached : database.IsReached) : ∀ row ∈ database.devices, row.IsKept := by
  induction hreached with
  | created path =>
      intro row hmem
      cases hmem
  | @upserted database _ device hfits ih => exact isKept_upsertDevice ih hfits.interval
  | @updated database _ now update ih =>
      rw [devices_run]
      cases update with
      | polled id polledAt => exact isKept_changed ih fun row hrow => hrow.polled polledAt
      | failure id => exact isKept_changed ih fun row hrow => hrow.failed
      | _ => exact ih

/-! ### What is found of the device -/

theorem IsReached.device?_upsertDevice (hreached : database.IsReached)
    (hinterval : device.pollingInterval < Text.limit32) (clock : Instant) :
    ∃ before, database.device? clock device.id = .ok before
      ∧ (database.upsertDevice device).device? clock device.id = .ok (some { device.bare with
        lastPolledAt := (device.lastPolledAt.map (·.stored clock)).or (before.bind (·.lastPolledAt)) }) := by
  unfold device?
  rw [row?_upsertDevice, if_pos rfl]
  cases hrow : database.row? device.id with
  | none =>
      refine ⟨none, rfl, ?_⟩
      show ((DeviceRow.written device (.whole 0)).toDevice clock).map some = _
      rw [DeviceRow.toDevice_of_fits hinterval, Option.bind_none, Option.or_none]
      rfl
  | some row =>
      have hkept := hreached.isKept row (List.mem_of_find?_eq_some hrow)
      obtain ⟨known, hknown, hreplaced⟩ := hkept.toDevice_replace hinterval clock
      refine ⟨some known, ?_, ?_⟩
      · show (row.toDevice clock).map some = _
        rw [hknown]
        rfl
      · show ((row.replace (.ofDevice device)).toDevice clock).map some = _
        rw [hreplaced]
        rfl

theorem find?_putCapabilities (id : String) (set : Option CapabilitySet) (rows : List CapabilityRow) :
    (putCapabilities id set rows).find? (·.deviceId == id)
      = set.map fun set => ⟨id, set.document.compact⟩ := by
  cases set with
  | none =>
      rw [putCapabilities, Option.map_none, List.find?_eq_none]
      intro row hmem
      have hother := (List.mem_filter.1 hmem).2
      simpa using hother
  | some set =>
      rw [putCapabilities, find?_upsert fun _ _ => rfl, if_pos (beq_self_eq_true _)]
      cases rows.find? (·.deviceId == id) <;> rfl

theorem find?_putCapabilities_of_ne {id other : String} (hother : id ≠ other) (set : Option CapabilitySet)
    (rows : List CapabilityRow) :
    (putCapabilities id set rows).find? (·.deviceId == other) = rows.find? (·.deviceId == other) := by
  cases set with
  | none =>
      rw [putCapabilities, List.find?_filter]
      congr 1
      funext row
      by_cases hrow : row.deviceId = other
      · simp [hrow, hother.symm]
      · simp [hrow]
  | some set =>
      rw [putCapabilities, find?_upsert fun _ _ => rfl, beq_eq_false_iff_ne.2 hother,
        if_neg Bool.false_ne_true]

theorem capabilities?_upsertDevice (database : Database) (hfits : ∀ set ∈ device.capabilities, set.Fits) :
    (database.upsertDevice device).capabilities? device.id = .ok device.capabilities := by
  have hrow : (database.upsertDevice device).capabilities.find? (·.deviceId == device.id.text) = _ :=
    find?_putCapabilities device.id.text device.capabilities database.capabilities
  unfold capabilities?
  rw [hrow]
  cases hset : device.capabilities with
  | none => rfl
  | some set =>
      show (Column.toValue CapabilitySet.read set.document.compact).map some = _
      rw [Column.toValue_of_holds (hfits set hset).holds]
      rfl

theorem failures?_upsertDevice (database : Database) (device : Device) :
    (database.upsertDevice device).failures? device.id
      = (database.failures? device.id).map fun count => some (count.getD 0) := by
  unfold failures?
  rw [row?_upsertDevice, if_pos rfl]
  cases database.row? device.id with
  | none => rfl
  | some row =>
      have hsame : countOf 0 (row.replace (.ofDevice device)) = countOf 0 row := by
        rw [countOf, countOf, DeviceRow.replace]
      show (countOf 0 (row.replace (.ofDevice device))).map some
        = ((countOf 0 row).map some).map fun count => some (count.getD 0)
      rw [hsame]
      cases countOf 0 row <;> rfl

/-! ### What is found of other devices -/

theorem row?_upsertDevice_of_ne (database : Database) {other : Uuid} (hother : device.id ≠ other) :
    (database.upsertDevice device).row? other = database.row? other := by
  rw [row?_upsertDevice, if_neg hother]

theorem capabilities?_upsertDevice_of_ne (database : Database) {other : Uuid} (hother : device.id ≠ other) :
    (database.upsertDevice device).capabilities? other = database.capabilities? other := by
  have htext : device.id.text ≠ other.text := fun hsame => hother (Uuid.text_injective hsame)
  have hrow : (database.upsertDevice device).capabilities.find? (·.deviceId == other.text) = _ :=
    find?_putCapabilities_of_ne htext device.capabilities database.capabilities
  rw [capabilities?, capabilities?, hrow]

/-- After a device was put into a database that can be reached, the database has its capabilities as they are, its roles as a listing, and the device itself bare, with the time of its last poll in milliseconds or else the one that was there, whatever clock it is read under. The failures of the device stay, and so does all that the database has of other devices and in its other tables. -/
theorem upsertDevice_exact (hreached : database.IsReached) (hfits : device.Fits) :
    ∃ next roles, Store.upsertDevice database device = .ok next
      ∧ Store.capabilities? next device.id = .ok device.capabilities
      ∧ (Store.roles next device.id = .ok roles ∧ Role.IsListing device.roles roles)
      ∧ (∀ clock, ∃ before, Store.readDevice? database clock device.id = .ok before
        ∧ Store.readDevice? next clock device.id = .ok (some { device.bare with
          lastPolledAt := (device.lastPolledAt.map (·.stored clock)).or (before.bind (·.lastPolledAt)) }))
      ∧ (∀ last ∈ device.lastPolledAt, ∀ clock, (last.IsOrdinary → last.stored clock = last.cut)
        ∧ (last.IsCovered → Instant.nanosPerSecond ≤ last.nanos →
          last.stored clock = if Instant.inRange (last.seconds + 1) then
              ⟨last.seconds + 1, (last.nanos - Instant.nanosPerSecond) / 1000000 * 1000000⟩
            else clock))
      ∧ next.failures? device.id = (database.failures? device.id).map (fun count => some (count.getD 0))
      ∧ (∀ other, device.id ≠ other → next.row? other = database.row? other
        ∧ (∀ clock, Store.readDevice? next clock other = Store.readDevice? database clock other)
        ∧ Store.capabilities? next other = Store.capabilities? database other
        ∧ Store.roles next other = Store.roles database other
        ∧ next.failures? other = database.failures? other)
      ∧ next = { database with
        devices := next.devices, capabilities := next.capabilities, roles := next.roles } := by
  refine ⟨database.upsertDevice device, Role.listed device.roles, rfl,
    capabilities?_upsertDevice database hfits.capabilities,
    ⟨rolesOf_upsertDevice database hfits.roles, Role.isListing_listed _⟩,
    hreached.device?_upsertDevice hfits.interval, ?_,
    failures?_upsertDevice database device, ?_, rfl⟩
  · intro last _ clock
    exact ⟨Column.toInstant_toMillis, fun hcovered hleap => Instant.stored_of_leap hcovered hleap clock⟩
  · intro other hother
    have hrow := row?_upsertDevice_of_ne database hother
    refine ⟨hrow, fun clock => ?_, capabilities?_upsertDevice_of_ne database hother,
      rolesOf_upsertDevice_of_ne database hother, ?_⟩
    · show Database.device? _ clock other = Database.device? _ clock other
      rw [device?, device?, hrow]
    · rw [failures?, failures?, hrow]

/-! ### A device that is put in again -/

end Database

/-- A device with a secret and with two roles of one code. -/
def Device.equipped : Device :=
  { Device.sample 1 with
    lastPolledAt := some ⟨1000, 123456789⟩
    capabilities := some ⟨some ⟨true, .v2c, some ⟨"secret"⟩, 161, none, some 3, none⟩, none, none, some "snmp", []⟩
    roles := [⟨"dhcp_server", none, 0, false⟩, ⟨"nat_gateway", none, 1, false⟩,
      ⟨"nat_gateway", some "NAT", 0, true⟩] }

theorem Device.fits_equipped : Device.equipped.Fits where
  interval := by decide
  capabilities set hset := by
    cases hset
    refine ⟨fun capability hmem => ?_, fun _ hmem => (by cases hmem), fun _ hmem => (by cases hmem)⟩
    cases hmem
    refine ⟨by decide, fun _ hmem => (by cases hmem), fun retries hmem => ?_⟩
    cases hmem
    decide
  roles := by decide

namespace Database

/-- A database in which a device has other capabilities, a role of its own, and one failure. -/
def outdated : Database :=
  ((StoreUpdate.failure ⟨1⟩).run default ((create "poll.db").upsertDevice
    { Device.equipped with capabilities := some .empty, roles := [⟨"vpn_gateway", none, 5, false⟩] })).2

theorem isReached_outdated : outdated.IsReached := by
  refine .updated (.upserted (.created "poll.db") ⟨by decide, fun set hset => ?_, by decide⟩) default _
  cases hset
  exact ⟨fun _ hmem => (by cases hmem), fun _ hmem => (by cases hmem), fun _ hmem => (by cases hmem)⟩

/-- Nothing of the old capabilities and roles is left, and the failure is. -/
theorem upsertDevice_exact_outdated : ∃ next, Store.upsertDevice outdated .equipped = .ok next
    ∧ Store.capabilities? next ⟨1⟩ = .ok Device.equipped.capabilities
    ∧ Store.roles next ⟨1⟩
      = .ok [⟨"dhcp_server", none, 0, false⟩, ⟨"nat_gateway", some "NAT", 0, true⟩]
    ∧ Store.readDevice? next ⟨1002, 0⟩ ⟨1⟩
      = .ok (some { Device.sample 1 with lastPolledAt := some ⟨1000, 123000000⟩ })
    ∧ next.failures? ⟨1⟩ = .ok (some 1) := by
  obtain ⟨next, roles, hnext, hcapabilities, ⟨hroles, hlisting⟩, hdevices, hlast, hfailures, _⟩ :=
    upsertDevice_exact isReached_outdated Device.fits_equipped
  obtain ⟨before, _, hdevice⟩ := hdevices ⟨1002, 0⟩
  have hlisted : roles = [⟨"dhcp_server", none, 0, false⟩, ⟨"nat_gateway", some "NAT", 0, true⟩] := by
    have hlast : Role.lastEach Device.equipped.roles
        = [⟨"dhcp_server", none, 0, false⟩, ⟨"nat_gateway", some "NAT", 0, true⟩] := by decide
    rw [hlisting.unique (Role.isListing_listed _), Role.listed, hlast]
    refine List.mergeSort_of_pairwise (List.pairwise_pair.2 ?_)
    simp [Role.place, Prod.Lex.toLex_le_toLex]
  have hbefore : outdated.failures? ⟨1⟩ = .ok (some 1) := by decide +kernel
  have hstored : Instant.stored ⟨1000, 123456789⟩ ⟨1002, 0⟩ = ⟨1000, 123000000⟩ := (hlast _ rfl _).1 (by decide)
  refine ⟨next, hnext, hcapabilities, hlisted ▸ hroles, ?_, hfailures.trans (congrArg _ hbefore)⟩
  refine hdevice.trans ?_
  show Except.ok (some { Device.sample 1 with lastPolledAt := some (Instant.stored ⟨1000, 123456789⟩ ⟨1002, 0⟩) }) = _
  rw [hstored]

/-- A poll half a second into the leap second at the end of 2016 is read as half a second into 2017. -/
theorem leap_second_is_moved :
    ((create "poll.db").upsertDevice
      { Device.sample 1 with lastPolledAt := some ⟨1483228799, 1500000000⟩ }).device? ⟨1483228802, 0⟩ ⟨1⟩
      = .ok (some { Device.sample 1 with lastPolledAt := some ⟨1483228800, 500000000⟩ })
    ∧ Instant.cut ⟨1483228799, 1500000000⟩ = ⟨1483228799, 1500000000⟩ := by
  have hcovered : Instant.IsCovered ⟨1483228799, 1500000000⟩ := by decide
  have hmoved : Instant.stored ⟨1483228799, 1500000000⟩ ⟨1483228802, 0⟩ = ⟨1483228800, 500000000⟩ := by
    rw [Instant.stored_of_leap hcovered (by decide)]
    rfl
  refine ⟨?_, rfl⟩
  show ((DeviceRow.written { Device.sample 1 with lastPolledAt := some ⟨1483228799, 1500000000⟩ }
    (.whole 0)).toDevice ⟨1483228802, 0⟩).map some = _
  rw [DeviceRow.toDevice_of_fits (by decide)]
  show Except.ok (some { Device.sample 1 with
    lastPolledAt := some (Instant.stored ⟨1483228799, 1500000000⟩ ⟨1483228802, 0⟩) }) = _
  rw [hmoved]

end Database

end RouterPoll
