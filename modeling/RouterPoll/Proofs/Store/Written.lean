import RouterPoll.Proofs.Store.Database
import RouterPoll.Proofs.Store.Listing

/-!
# Rows as they are written

A row that the store wrote is the row of some device, with a count of failures beside it. It is read back as that device, bare and with the time of its last poll cut to milliseconds, as long as the text of its address is that of an address. Whether it is due and where it stands in a listing is the same for the row and for what is read of it, so the database lists the front of its due list.
-/

namespace RouterPoll

/-! ### Rows of devices -/

/-- A device that a row can hold: its interval fits its width, and the time of its last poll is readable. -/
structure Device.IsWritable (device : Device) : Prop where
  interval : device.pollingInterval < Text.limit32
  lastPolledAt : ∀ last ∈ device.lastPolledAt, Column.IsReadable last.toMillis

/-- A device as it is read back from its row, with the address that was read. -/
def Device.asRead (device : Device) (clock : Instant) (managementIp : Address) : Device :=
  { device.bare with
    managementIp
    lastPolledAt := device.lastPolledAt.map (·.stored clock) }

namespace DeviceRow

def written (device : Device) (failures : Cell) : DeviceRow := { ofDevice device with failures }

def IsWritten (row : DeviceRow) : Prop :=
  ∃ (device : Device) (failures : Cell), device.IsWritable ∧ row = written device failures

variable {device : Device} {failures : Cell} {row : DeviceRow} {clock : Instant}

theorem replace_written (old new : Device) (failures newFailures : Cell) :
    (written old failures).replace (written new newFailures)
      = written { new with lastPolledAt := new.lastPolledAt.or old.lastPolledAt } failures := by
  cases hlast : new.lastPolledAt <;>
    simp [replace, written, ofDevice, hlast, Cell.or, Cell.ofWhole?, Cell.whole]

theorem toDevice_written (hlimit : device.pollingInterval < Text.limit32) (failures : Cell) (clock : Instant) :
    (written device failures).toDevice clock
      = (Column.toAddress device.managementIp.text).map (device.asRead clock) := by
  have hinterval : Column.toNat Text.limit32 (Text.limit32 - 1) device.pollingInterval
      = device.pollingInterval := by
    rw [Column.toNat, if_pos ⟨Int.natCast_nonneg _, Int.ofNat_lt.2 hlimit⟩]
    rfl
  have hlast (column : String) : (Cell.ofWhole? (device.lastPolledAt.map Instant.toMillis)).readWhole? column
      = .ok (device.lastPolledAt.map Instant.toMillis) := by
    cases device.lastPolledAt <;> rfl
  have hflag (column : String) : (Cell.whole (Column.ofFlag device.pollingEnabled)).readFlag column
      = .ok device.pollingEnabled := by
    cases device.pollingEnabled <;> rfl
  unfold toDevice written ofDevice
  simp only [Cell.whole, Cell.readWhole, hlast, Column.toUuid, Uuid.parse?_text, Column.toStatus,
    DeviceStatus.ofText?_text]
  simp only [Cell.whole] at hflag
  cases Column.toAddress device.managementIp.text with
  | error error => rfl
  | ok address =>
      simp only [hflag]
      show Except.ok _ = Except.ok _
      rw [hinterval, Option.map_map]
      rfl

theorem isDue_written (hwritable : device.IsWritable) (failures : Cell) {nowMillis : Int} :
    (written device failures).isDue nowMillis = true ↔ device.pollingEnabled = true
      ∧ device.status = .active ∧ ∀ last ∈ device.lastPolledAt,
        last.toMillis + device.pollingInterval * 1000 < nowMillis := by
  have hflag : ((Cell.whole (Column.ofFlag device.pollingEnabled)).order
      (.whole (Column.ofFlag true)) == .eq) = device.pollingEnabled := by
    cases device.pollingEnabled <;> rfl
  have hstatus : (device.status.text == DeviceStatus.active.text) = true ↔ device.status = .active := by
    cases device.status <;> decide
  unfold isDue written ofDevice
  rw [Bool.and_eq_true, Bool.and_eq_true, hflag, hstatus, and_assoc]
  refine and_congr_right fun _ => and_congr_right fun _ => ?_
  cases hlast : device.lastPolledAt with
  | none => simp [Cell.ofWhole?]
  | some last =>
      have hmillis : Column.IsCovered last.toMillis :=
        Column.isCovered_of_isReadable (hwritable.lastPolledAt last hlast)
      have hsum := Cell.whole_plus hmillis hwritable.interval
      rw [← Cell.whole_times hwritable.interval] at hsum
      show (((Cell.whole last.toMillis).plus ((Cell.whole device.pollingInterval).times (.whole 1000)))
        != .null && ((Cell.whole last.toMillis).plus ((Cell.whole device.pollingInterval).times
          (.whole 1000))).order (.whole nowMillis) == .lt) = true ↔ _
      rw [hsum, Cell.whole_order, Bool.and_eq_true, beq_iff_eq, Int.compare_eq_lt]
      simp [Cell.whole]

theorem isDue_asRead (hwritable : device.IsWritable) (address : Address) {nowMillis : Int}
    (hnow : Column.IsReadable nowMillis) :
    (device.asRead clock address).isDue (Column.toInstant clock nowMillis) = some true ↔
      device.pollingEnabled = true ∧ device.status = .active ∧ ∀ last ∈ device.lastPolledAt,
        last.toMillis + device.pollingInterval * 1000 < nowMillis := by
  rw [Device.isDue_iff]
  refine and_congr_right fun _ => and_congr_right fun _ => ?_
  show (∀ last ∈ device.lastPolledAt.map _, _) ↔ _
  cases hlast : device.lastPolledAt with
  | none => simp
  | some last =>
      have hmillis := hwritable.lastPolledAt last hlast
      simp only [Option.map_some, Option.mem_some_iff, forall_eq', Instant.stored]
      rw [show (device.asRead clock address).pollingInterval = device.pollingInterval from rfl,
        Column.addSeconds_toInstant hmillis]
      unfold Column.IsReadable at hmillis hnow
      constructor
      · rintro ⟨next, hnext, hbefore⟩
        split at hnext
        · rename_i hrange
          cases hnext
          exact (Column.before_toInstant_iff hrange hnow).1 hbefore
        · cases hnext
      · intro hlt
        have hrange : Column.IsReadable (last.toMillis + device.pollingInterval * 1000) := by
          rw [Instant.inRange_iff] at hmillis hnow
          rw [Column.IsReadable, Instant.inRange_iff]
          omega
        exact ⟨_, if_pos hrange, (Column.before_toInstant_iff hrange hnow).2 hlt⟩

/-- The place of a row in a listing: by its last poll, and then by its id. -/
def place (row : DeviceRow) : WithBot ℤ ×ₗ String :=
  let last : WithBot ℤ := match row.lastPolledAt with
    | .number (.whole millis) => millis
    | _ => ⊥
  toLex (last, row.id)

theorem IsWritten.notAfter_eq_place {left right : DeviceRow} (hleft : left.IsWritten)
    (hright : right.IsWritten) : left.notAfter right = decide (left.place ≤ right.place) := by
  obtain ⟨first, _, _, rfl⟩ := hleft
  obtain ⟨second, _, _, rfl⟩ := hright
  rw [Bool.eq_iff_iff, decide_eq_true_iff, place, place, Prod.Lex.toLex_le_toLex]
  unfold notAfter written ofDevice
  cases first.lastPolledAt with
  | none =>
      cases second.lastPolledAt with
      | none => simp [Cell.ofWhole?, Cell.order]
      | some last => simp [Cell.ofWhole?, Cell.order, Cell.whole]
  | some first =>
      cases second.lastPolledAt with
      | none => simp [Cell.ofWhole?, Cell.order, Cell.whole]
      | some second =>
          simp only [Option.map_some, Cell.ofWhole?, Cell.whole_order]
          simp only [Cell.whole, WithBot.coe_lt_coe, WithBot.coe_inj]
          rcases lt_trichotomy first.toMillis second.toMillis with hlt | heq | hgt
          · simp [Int.compare_eq_lt.2 hlt, hlt]
          · simp [heq]
          · simp [Int.compare_eq_gt.2 hgt, hgt.not_gt, hgt.ne']

/-- What is read of a row that was written does not hang on the clock. -/
theorem IsWritten.toDevice_eq (hwritten : row.IsWritten) (clock other : Instant) :
    row.toDevice clock = row.toDevice other := by
  obtain ⟨device, failures, hwritable, rfl⟩ := hwritten
  have hlast : device.lastPolledAt.map (·.stored clock) = device.lastPolledAt.map (·.stored other) := by
    refine Option.map_congr fun last hlast => ?_
    have hreadable := hwritable.lastPolledAt last hlast
    rw [Instant.stored, Instant.stored, Column.toInstant_of_isReadable hreadable,
      Column.toInstant_of_isReadable hreadable]
  have hread (address : Address) : device.asRead clock address = device.asRead other address := by
    rw [Device.asRead, Device.asRead, hlast]
  rw [toDevice_written hwritable.interval, toDevice_written hwritable.interval, funext hread]

theorem exists_address (hwritable : device.IsWritable) {found : Device}
    (hread : (written device failures).toDevice clock = .ok found) :
    ∃ address, found = device.asRead clock address := by
  rw [toDevice_written hwritable.interval] at hread
  cases haddress : Column.toAddress device.managementIp.text with
  | error error =>
      rw [haddress] at hread
      cases hread
  | ok address =>
      rw [haddress] at hread
      exact ⟨address, (Except.ok.inj hread).symm⟩

theorem IsWritten.notAfter_of_read {left right : DeviceRow} (hleft : left.IsWritten)
    (hright : right.IsWritten) {first second : Device} (hfirst : left.toDevice clock = .ok first)
    (hsecond : right.toDevice clock = .ok second) : first.notAfter second = left.notAfter right := by
  obtain ⟨old, _, hold, rfl⟩ := hleft
  obtain ⟨new, _, hnew, rfl⟩ := hright
  obtain ⟨_, rfl⟩ := exists_address hold hfirst
  obtain ⟨_, rfl⟩ := exists_address hnew hsecond
  unfold notAfter written ofDevice Device.notAfter Device.asRead Device.bare
  simp only [Uuid.notAfter_eq_text_le]
  cases hlast : old.lastPolledAt with
  | none =>
      cases new.lastPolledAt with
      | none => rfl
      | some last => rfl
  | some last =>
      cases hother : new.lastPolledAt with
      | none => rfl
      | some other =>
          have hmillis := hold.lastPolledAt last hlast
          have hmillis' := hnew.lastPolledAt other hother
          simp only [Option.map_some, Cell.ofWhole?, Cell.whole_order, beq_iff_eq, Instant.stored,
            Column.toInstant_inj hmillis hmillis']
          have hbefore : (Column.toInstant clock last.toMillis).before (Column.toInstant clock other.toMillis) = true
              ↔ last.toMillis < other.toMillis := Column.before_toInstant_iff hmillis hmillis'
          rcases lt_trichotomy last.toMillis other.toMillis with hlt | heq | hgt
          · simp [Int.compare_eq_lt.2 hlt, hlt.ne, hbefore.2 hlt]
          · simp [heq]
          · rw [Int.compare_eq_gt.2 hgt, if_neg hgt.ne']
            exact Bool.eq_false_iff.2 fun hlt => hgt.not_gt (hbefore.1 hlt)

theorem IsWritten.polled (hwritten : row.IsWritten) {polledAt : Instant}
    (hreadable : Column.IsReadable polledAt.toMillis) : (row.polled polledAt).IsWritten := by
  obtain ⟨device, failures, hwritable, rfl⟩ := hwritten
  refine ⟨{ device with lastPolledAt := some polledAt }, .whole 0, ⟨hwritable.interval, ?_⟩, rfl⟩
  intro last hlast
  cases hlast
  exact hreadable

theorem IsWritten.failed (hwritten : row.IsWritten) : row.failed.IsWritten := by
  obtain ⟨device, failures, hwritable, rfl⟩ := hwritten
  exact ⟨device, _, hwritable, rfl⟩

theorem IsWritten.isSound (hwritten : row.IsWritten) : row.IsSound := by
  obtain ⟨device, failures, hwritable, rfl⟩ := hwritten
  refine ⟨⟨device.id, rfl⟩, ⟨device.pollingInterval, hwritable.interval, rfl⟩, _, rfl, ?_⟩
  intro millis hmillis
  obtain ⟨last, hlast, rfl⟩ := Option.map_eq_some_iff.1 hmillis
  exact Column.isCovered_of_isReadable (hwritable.lastPolledAt last hlast)

theorem IsWritten.isDue_iff (hwritten : row.IsWritten) {found : Device} (hread : row.toDevice clock = .ok found)
    {nowMillis : Int} (hnow : Column.IsReadable nowMillis) :
    row.isDue nowMillis = true ↔ found.isDue (Column.toInstant clock nowMillis) = some true := by
  obtain ⟨device, failures, hwritable, rfl⟩ := hwritten
  obtain ⟨address, rfl⟩ := exists_address hwritable hread
  rw [isDue_written hwritable, isDue_asRead hwritable address hnow]

end DeviceRow

/-! ### Databases that the store wrote -/

/-- An update that dates a device, if it does, with a time that is readable. -/
def StoreUpdate.IsReadable : StoreUpdate → Prop
  | polled _ polledAt => Column.IsReadable polledAt.toMillis
  | _ => True

namespace Database

/-- A database all of whose rows of devices were written by the store, with no id in two of them. -/
structure IsWritten (database : Database) : Prop where
  rows : ∀ row ∈ database.devices, row.IsWritten
  ids : (database.devices.map (·.id)).Nodup

variable {database : Database}

theorem isWritten_create (path : String) : (create path).IsWritten where
  rows row hmem := by cases hmem
  ids := List.nodup_nil

theorem IsWritten.isSound (hwritten : database.IsWritten) : database.IsSound where
  rows row hmem := (hwritten.rows row hmem).isSound
  ids := hwritten.ids

theorem IsWritten.upsertDevice (hwritten : database.IsWritten) {device : Device}
    (hwritable : device.IsWritable) : (database.upsertDevice device).IsWritten where
  rows row hmem := by
    rcases mem_upsert hmem with hold | rfl | ⟨old, hold, _, rfl⟩
    · exact hwritten.rows row hold
    · exact ⟨device, _, hwritable, rfl⟩
    · obtain ⟨known, failures, hknown, rfl⟩ := hwritten.rows old hold
      refine ⟨_, failures, ?_, DeviceRow.replace_written known device failures (.whole 0)⟩
      refine ⟨hwritable.interval, fun last hlast => ?_⟩
      rcases Option.or_eq_some_iff.1 hlast with hnew | ⟨_, hold⟩
      · exact hwritable.lastPolledAt last hnew
      · exact hknown.lastPolledAt last hold
  ids := nodup_upsert (fun _ _ => rfl) hwritten.ids

theorem IsWritten.changed (hwritten : database.IsWritten) {id : Uuid}
    {change : DeviceRow → DeviceRow} (hid : ∀ row, (change row).id = row.id)
    (hchange : ∀ row, row.IsWritten → (change row).IsWritten) :
    (database.changed id change).IsWritten where
  rows row hmem := by
    obtain ⟨old, hold, rfl⟩ := List.mem_map.1 hmem
    have hrow := hwritten.rows old hold
    split
    · exact hchange old hrow
    · exact hrow
  ids := by
    rw [map_id_changed hid]
    exact hwritten.ids

theorem IsWritten.run (hwritten : database.IsWritten) (now : Instant) {update : StoreUpdate}
    (hreadable : update.IsReadable) : (update.run now database).2.IsWritten := by
  have hdevices := devices_run now update database
  cases update with
  | polled deviceId polledAt =>
      rw [run_polled]
      exact hwritten.changed (fun _ => rfl) fun row hrow => hrow.polled hreadable
  | failure deviceId =>
      rw [run_failure]
      exact hwritten.changed (fun _ => rfl) fun row hrow => hrow.failed
  | _ => exact ⟨by rw [hdevices]; exact hwritten.rows, by rw [hdevices]; exact hwritten.ids⟩

/-! ### What the database lists -/

def dueDevices (database : Database) (clock : Instant) (nowMillis : Int) : List Device :=
  (database.dueRows nowMillis).filterMap fun row => (row.toDevice clock).toOption

theorem eq_ok_of_toOption {ε α : Type} {answer : Except ε α} {value : α}
    (hsome : answer.toOption = some value) : answer = .ok value := by
  cases answer with
  | error error => cases hsome
  | ok found =>
      cases hsome
      rfl

/-- Where the front of a list can be read, it is the front of all that can be read. -/
theorem take_filterMap_of_mapM {ε α β : Type} {read : α → Except ε β} {items : List α}
    {limit : Nat} {values : List β} (hread : (items.take limit).mapM read = .ok values) :
    (items.filterMap fun item => (read item).toOption).take limit = values := by
  induction items generalizing limit values with
  | nil =>
      rw [List.take_nil] at hread
      cases hread
      exact List.take_nil
  | cons item items ih =>
      cases limit with
      | zero =>
          cases hread
          rfl
      | succ limit =>
          rw [List.take_succ_cons, List.mapM_cons] at hread
          obtain ⟨first, hfirst, hothers⟩ := bind_eq_ok.1 hread
          obtain ⟨rest, hrest, hvalues⟩ := bind_eq_ok.1 hothers
          cases hvalues
          rw [List.filterMap_cons, hfirst]
          show (first :: _).take (limit + 1) = _
          rw [List.take_succ_cons, ih hrest]

theorem IsWritten.eq_take_of_listed (hwritten : database.IsWritten) {clocks : Nat → Instant} {now : Instant}
    {limit : Nat} {devices : List Device} (hlisted : database.listDue clocks now limit = .listed devices)
    (clock : Instant) : devices = (database.dueDevices clock now.toMillis).take limit := by
  have hread := toDevices_of_listed hlisted
  have halone : ∀ row ∈ (database.dueRows now.toMillis).take limit, ∀ place,
      row.toDevice (clocks place) = row.toDevice clock := fun row hrow place =>
    (hwritten.rows row (mem_dueRows.1 (List.mem_of_mem_take hrow)).1).toDevice_eq _ _
  rw [DeviceRow.toDevices, mapM_zipIdx halone] at hread
  exact (take_filterMap_of_mapM hread).symm

theorem IsWritten.pairwise_dueDevices (hwritten : database.IsWritten) {clock : Instant} {nowMillis : Int}
    {related : Device → Device → Prop} {relatedRows : DeviceRow → DeviceRow → Prop}
    (hrows : (database.dueRows nowMillis).Pairwise relatedRows)
    (hread : ∀ {left right : DeviceRow}, left.IsWritten → right.IsWritten → relatedRows left right →
      ∀ {first second}, left.toDevice clock = .ok first → right.toDevice clock = .ok second →
        related first second) :
    (database.dueDevices clock nowMillis).Pairwise related := by
  refine List.pairwise_filterMap.2 (hrows.imp_of_mem ?_)
  intro left right hleft hright hrelated first hfirst second hsecond
  exact hread (hwritten.rows left (mem_dueRows.1 hleft).1) (hwritten.rows right (mem_dueRows.1 hright).1)
    hrelated (eq_ok_of_toOption hfirst) (eq_ok_of_toOption hsecond)

theorem IsWritten.device?_eq (hwritten : database.IsWritten) (clock other : Instant) (id : Uuid) :
    database.device? clock id = database.device? other id := by
  unfold device?
  cases hrow : database.row? id with
  | none => rfl
  | some row =>
      have hsame := (hwritten.rows row (List.mem_of_find?_eq_some hrow)).toDevice_eq clock other
      show (row.toDevice clock).map some = (row.toDevice other).map some
      rw [hsame]

theorem IsWritten.isDueList (hwritten : database.IsWritten) {now : Instant} (hnow : now.IsOrdinary)
    (clock : Instant) : IsDueList database now.cut (database.dueDevices clock now.toMillis) where
  nodup := by
    have hids : ((database.dueRows now.toMillis).map (·.id)).Nodup :=
      ((List.mergeSort_perm _ _).map _).nodup_iff.2 (hwritten.ids.sublist (List.filter_sublist.map _))
    refine List.pairwise_map.2 (hwritten.pairwise_dueDevices (List.pairwise_map.1 hids) ?_)
    intro left right hleft hright hne first second hfirst hsecond hsame
    rw [hleft.isSound.id_eq hfirst, hright.isSound.id_eq hsecond, hsame] at hne
    exact hne rfl
  sorted := by
    have hsorted : (database.dueRows now.toMillis).Pairwise
        fun left right => left.notAfter right = true := by
      refine pairwise_mergeSort_of_key DeviceRow.place ?_
      intro left hleft right hright
      exact (hwritten.rows left (List.mem_of_mem_filter hleft)).notAfter_eq_place
        (hwritten.rows right (List.mem_of_mem_filter hright))
    refine hwritten.pairwise_dueDevices hsorted ?_
    intro left right hleft hright hle first second hfirst hsecond
    rw [hleft.notAfter_of_read hright hfirst hsecond]
    exact hle
  mem_iff device := by
    have hreadable := Column.isReadable_toMillis hnow
    unfold dueDevices
    have hcut : Column.toInstant clock now.toMillis = now.cut := Column.toInstant_toMillis hnow
    rw [List.mem_filterMap, ← hcut]
    constructor
    · rintro ⟨row, hrow, hdevice⟩
      obtain ⟨hmem, hdue⟩ := mem_dueRows.1 hrow
      have hread := eq_ok_of_toOption hdevice
      refine ⟨fun other => ?_, ((hwritten.rows row hmem).isDue_iff hread hreadable).1 hdue⟩
      exact (hwritten.device?_eq other clock _).trans (hwritten.isSound.device?_of_mem hmem hread)
    · rintro ⟨hstored, hdue⟩
      obtain ⟨row, hrow, hread⟩ := exists_row (hstored clock)
      have hmem : row ∈ database.devices := List.mem_of_find?_eq_some hrow
      refine ⟨row, mem_dueRows.2 ⟨hmem, ((hwritten.rows row hmem).isDue_iff hread hreadable).2 hdue⟩, ?_⟩
      rw [hread]
      rfl

instance : ListingStore Database where
  IsKept := IsWritten
  kept instant := instant.cut
  readDevice?_eq hwritten := hwritten.device?_eq
  exists_due {_ _ now _ _} hwritten hnow hlisted :=
    ⟨_, hwritten.isDueList hnow now, hwritten.eq_take_of_listed hlisted now⟩
  capabilities?_run store now update id := by
    cases update with
    | polled deviceId polledAt => rw [run_polled]; rfl
    | failure deviceId => rw [run_failure]; rfl
    | sessions tenantId deviceId batch => cases batch <;> rfl
    | _ => rfl
  roles_run store now update id := by
    cases update with
    | polled deviceId polledAt => rw [run_polled]; rfl
    | failure deviceId => rw [run_failure]; rfl
    | sessions tenantId deviceId batch => cases batch <;> rfl
    | _ => rfl

end Database

end RouterPoll
