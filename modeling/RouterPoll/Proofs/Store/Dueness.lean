import RouterPoll.Proofs.Store.Agreement

/-!
# Due to the millisecond

The database keeps the time of a last poll, and asks what is due now, in whole milliseconds rounded down, and the store in memory has both to the nanosecond. Outside leap seconds rounding is on the safe side: a row that is due stands for a device that is due. A device that is due has a row that is due one millisecond later, at the latest. Milliseconds count a leap second into the second after it, so what a row says in a leap second is said of the instant one second on.
-/

namespace RouterPoll

namespace Instant

/-! ### One millisecond later -/

/-- The fraction of a second, also in a leap second. -/
def nanosInSecond (instant : Instant) : Nat := if instant.isLeap then instant.nanos - nanosPerSecond else instant.nanos

theorem nanosInSecond_lt {instant : Instant} (hnanos : instant.nanos < 2 * nanosPerSecond) :
    instant.nanosInSecond < nanosPerSecond := by
  unfold nanosInSecond
  split
  · omega
  · rename_i hleap
    exact Nat.not_le.1 (mt decide_eq_true hleap)

/-- Some milliseconds later, if that is still in the covered years. Within a leap second the nanoseconds grow; a sum that leaves it is that of the second before it, with the same fraction of a second. -/
def addMillis (instant : Instant) (millis : Nat) : Option Instant :=
  let nanos := millis % 1000 * 1000000
  if instant.isLeap ∧ millis / 1000 = 0 ∧ instant.nanos + nanos < 2 * nanosPerSecond then
    some ⟨instant.seconds, instant.nanos + nanos⟩
  else
    let sum := instant.nanosInSecond + nanos
    let seconds := instant.seconds + (millis / 1000 + sum / nanosPerSecond : Nat)
    if inRange seconds then some ⟨seconds, sum % nanosPerSecond⟩ else none

/-- The instant that a clock without leap seconds shows. -/
def unleaped (instant : Instant) : Instant :=
  if instant.isLeap then ⟨instant.seconds + 1, instant.nanosInSecond⟩ else instant

theorem toMillis_unleaped (instant : Instant) : instant.unleaped.toMillis = instant.toMillis := by
  rw [unleaped]
  split
  · rename_i hleap
    have hnanos : 1000000000 ≤ instant.nanos := of_decide_eq_true hleap
    unfold toMillis nanosInSecond nanosPerSecond
    rw [if_pos hleap]
    dsimp only
    omega
  · rfl

theorem nanos_unleaped_lt {instant : Instant} (hnanos : instant.nanos < 2 * nanosPerSecond) :
    instant.unleaped.nanos < nanosPerSecond := by
  rw [unleaped]
  split
  · exact nanosInSecond_lt hnanos
  · rename_i hleap
    exact Nat.not_le.1 (mt decide_eq_true hleap)

theorem toMillis_of_addSeconds {last next : Instant} {count : Nat} (hordinary : last.IsOrdinary)
    (hnext : last.addSeconds count = some next) :
    next.toMillis = last.toMillis + count * 1000 ∧ next.nanos < nanosPerSecond := by
  have hleap : last.isLeap = false := decide_eq_false (Nat.not_le.2 hordinary.2)
  unfold addSeconds at hnext
  simp only [hleap, Bool.false_eq_true, if_false, beq_iff_eq] at hnext
  split at hnext
  · rename_i hzero
    cases hnext
    rw [hzero]
    exact ⟨by omega, hordinary.2⟩
  · split at hnext
    · cases hnext
      refine ⟨?_, hordinary.2⟩
      unfold toMillis
      dsimp only
      omega
    · cases hnext

/-- What lies before an instant without leap second by whole milliseconds lies before it. -/
theorem before_of_toMillis_lt {first second : Instant} (hsecond : second.nanos < nanosPerSecond)
    (hlt : first.toMillis < second.toMillis) : first.before second = true := by
  have hnanos : second.nanos < 1000000000 := hsecond
  unfold toMillis at hlt
  rw [before_iff]
  omega

theorem toMillis_lt_of_before {first now later : Instant} (hfirst : first.nanos < nanosPerSecond)
    (hbefore : first.before now = true) (hlater : now.addMillis 1 = some later) :
    first.toMillis < later.toMillis := by
  rw [before_iff] at hbefore
  unfold addMillis at hlater
  unfold nanosPerSecond at hfirst hlater
  dsimp only at hlater
  split at hlater
  · cases hlater
    unfold toMillis
    dsimp only
    omega
  · rename_i hleaves
    obtain ⟨-, hsum⟩ := Option.ite_none_right_eq_some.1 hlater
    cases hsum
    unfold toMillis nanosInSecond nanosPerSecond
    by_cases hleap : now.isLeap
    · have hlast : 2 * 1000000000 ≤ now.nanos + 1 % 1000 * 1000000 :=
        Nat.not_lt.1 fun hstays => hleaves ⟨hleap, rfl, hstays⟩
      rw [if_pos hleap]
      dsimp only
      omega
    · rw [if_neg hleap]
      dsimp only
      omega

end Instant

/-! ### The rows of what is known -/

/-- The database has the rows of the devices that the store in memory knows, each with a count of failures that may be another. -/
def Mirrors (store : MemoryStore) (database : Database) : Prop :=
  ∀ id, ∃ failures, database.row? id = (store.devices.get? id).map fun entry => .written entry.device failures

namespace Mirrors

variable {store : MemoryStore} {database : Database}

theorem empty (path : String) : Mirrors .empty (.create path) := fun _ => ⟨.null, rfl⟩

theorem upsert (hmirrors : Mirrors store database) (device : Device) :
    Mirrors (store.upsertDevice device) (database.upsertDevice device) := by
  intro id
  obtain ⟨failures, hrow⟩ := hmirrors id
  rw [Database.row?_upsertDevice, MemoryStore.get?_upsertDevice, hrow]
  split
  · cases store.devices.get? id with
    | none =>
        refine ⟨.whole 0, congrArg some ?_⟩
        unfold MemoryStore.mergedEntry DeviceRow.written DeviceRow.ofDevice
        simp [Device.bare]
    | some entry => exact ⟨failures, congrArg some (DeviceRow.replace_written entry.device device failures (.whole 0))⟩
  · exact ⟨failures, rfl⟩

theorem changed (hmirrors : Mirrors store database) (id : Uuid) {change : MemoryEntry → MemoryEntry}
    {changeRow : DeviceRow → DeviceRow} (hid : ∀ row, (changeRow row).id = row.id)
    (hrow : ∀ (entry : MemoryEntry) (failures : Cell), ∃ count,
      changeRow (.written entry.device failures) = .written (change entry).device count) :
    Mirrors (store.changed id change) (database.changed id changeRow) := by
  intro other
  obtain ⟨failures, hother⟩ := hmirrors other
  rw [Database.row?_changed hid, MemoryStore.get?_changed, hother]
  split
  · cases store.devices.get? other with
    | none => exact ⟨failures, rfl⟩
    | some entry =>
        obtain ⟨count, hcount⟩ := hrow entry failures
        exact ⟨count, congrArg some hcount⟩
  · exact ⟨failures, rfl⟩

theorem run (hmirrors : Mirrors store database) (call : DeviceCall) :
    Mirrors (call.run store).2 (call.run database).2 := by
  cases call with
  | upsert device => exact hmirrors.upsert device
  | markPolled id polledAt =>
      rw [MemoryStore.run_markPolled, Database.run_markPolled]
      exact hmirrors.changed id (fun _ => rfl) fun entry failures => ⟨.whole 0, rfl⟩
  | recordFailure id =>
      rw [MemoryStore.run_recordFailure, Database.run_recordFailure]
      exact hmirrors.changed id (fun _ => rfl) fun entry failures => ⟨_, rfl⟩

theorem runAll (hmirrors : Mirrors store database) (calls : List DeviceCall) :
    Mirrors (runAll DeviceCall.run store calls).2 (runAll DeviceCall.run database calls).2 := by
  induction calls generalizing store database with
  | nil => exact hmirrors
  | cons call calls ih => exact ih (hmirrors.run call)

end Mirrors

/-! ### Dueness -/

theorem DeviceRow.isDue_written_iff {device : Device} (hinterval : device.pollingInterval < Text.limit32)
    (hlast : ∀ last ∈ device.lastPolledAt, last.IsOrdinary) (hnext : device.HasNext) (failures : Cell)
    {nowMillis : Int} : (written device failures).isDue nowMillis = true ↔ device.pollingEnabled = true
      ∧ device.status = .active ∧ ∀ last ∈ device.lastPolledAt, ∃ next,
        last.addSeconds device.pollingInterval = some next ∧ next.toMillis < nowMillis := by
  have hwritable : device.IsWritable := ⟨hinterval, fun last hmem => Column.isReadable_toMillis (hlast last hmem)⟩
  rw [isDue_written hwritable]
  refine and_congr_right fun _ => and_congr_right fun _ => forall_congr' fun last => forall_congr' fun hmem => ?_
  obtain ⟨next, hsum⟩ := Option.isSome_iff_exists.1 (hnext last hmem)
  rw [← (Instant.toMillis_of_addSeconds (hlast last hmem) hsum).1, hsum]
  simp

section

variable {device : Device} {failures : Cell} {now : Instant}

/-- A row that is due stands for a device that is due by a clock without leap seconds. -/
theorem isDue_unleaped (hinterval : device.pollingInterval < Text.limit32)
    (hlast : ∀ last ∈ device.lastPolledAt, last.IsOrdinary) (hnext : device.HasNext) (hnow : now.IsCovered)
    (hdue : (DeviceRow.written device failures).isDue now.toMillis = true) :
    device.isDue now.unleaped = some true := by
  rw [DeviceRow.isDue_written_iff hinterval hlast hnext] at hdue
  refine Device.isDue_iff.2 ⟨hdue.1, hdue.2.1, fun last hmem => ?_⟩
  obtain ⟨next, hsum, hlt⟩ := hdue.2.2 last hmem
  rw [← Instant.toMillis_unleaped now] at hlt
  exact ⟨next, hsum, Instant.before_of_toMillis_lt (Instant.nanos_unleaped_lt hnow.2) hlt⟩

/-- The row of a device that is due is due one millisecond later. -/
theorem isDue_addMillis (hinterval : device.pollingInterval < Text.limit32)
    (hlast : ∀ last ∈ device.lastPolledAt, last.IsOrdinary) (hnext : device.HasNext)
    (hdue : device.isDue now = some true) {later : Instant} (hlater : now.addMillis 1 = some later) :
    (DeviceRow.written device failures).isDue later.toMillis = true := by
  rw [Device.isDue_iff] at hdue
  refine (DeviceRow.isDue_written_iff hinterval hlast hnext failures).2 ⟨hdue.1, hdue.2.1, fun last hmem => ?_⟩
  obtain ⟨next, hsum, hbefore⟩ := hdue.2.2 last hmem
  have hnanos := (Instant.toMillis_of_addSeconds (hlast last hmem) hsum).2
  exact ⟨next, hsum, Instant.toMillis_lt_of_before hnanos hbefore hlater⟩

end

/-- However a device came to be known, with a last poll that is in no leap second and a next one in the covered years: if its row is due in the database now, the device is due now, and if the device is due now, its row is due one millisecond later. Only in a leap second may the row be due too early, and then the device is due at the same fraction of the next second. -/
theorem isDue_row_within_millisecond {path : String} {calls : List DeviceCall}
    {answers others : List (Except StorageError (Option Nat))} {store : MemoryStore} {database : Database}
    (hmemory : runAll DeviceCall.run MemoryStore.empty calls = (answers, store))
    (hdatabase : runAll DeviceCall.run (Database.create path) calls = (others, database))
    {clock : Instant} {id : Uuid} {device : Device}
    (hdevice : Store.readDevice? store clock id = .ok (some device))
    (hinterval : device.pollingInterval < Text.limit32)
    (hlast : ∀ last ∈ device.lastPolledAt, last.IsOrdinary) (hnext : device.HasNext) :
    ∃ row, database.row? id = some row ∧ ∀ now : Instant, now.IsCovered →
      (now.isLeap = false → row.isDue now.toMillis = true → device.isDue now = some true)
        ∧ (now.isLeap = true → row.isDue now.toMillis = true →
          device.isDue ⟨now.seconds + 1, now.nanos - Instant.nanosPerSecond⟩ = some true)
        ∧ ∀ later, now.addMillis 1 = some later → device.isDue now = some true →
          row.isDue later.toMillis = true := by
  have hmirrors : Mirrors store database := by
    have hall := (Mirrors.empty path).runAll calls
    rwa [hmemory, hdatabase] at hall
  obtain ⟨failures, hrow⟩ := hmirrors id
  obtain ⟨entry, hentry, rfl⟩ := Option.map_eq_some_iff.1 (Except.ok.inj hdevice)
  rw [hentry] at hrow
  refine ⟨_, hrow, fun now hnow => ⟨fun hordinary hdue => ?_, fun hleap hdue => ?_, fun later hlater hdue => ?_⟩⟩
  · have hunleaped := isDue_unleaped hinterval hlast hnext hnow hdue
    rwa [Instant.unleaped, hordinary, if_neg Bool.false_ne_true] at hunleaped
  · have hunleaped := isDue_unleaped hinterval hlast hnext hnow hdue
    rwa [Instant.unleaped, Instant.nanosInSecond, if_pos hleap, if_pos hleap] at hunleaped
  · exact isDue_addMillis hinterval hlast hnext hdue hlater

/-! ### Two devices -/

/-- A device fails once and is then polled shortly before 1970. -/
def DeviceCall.early : List DeviceCall :=
  [.upsert (.sample 1), .recordFailure ⟨1⟩, .markPolled ⟨1⟩ ⟨-61, 999500000⟩]

def Device.early : Device := { Device.sample 1 with lastPolledAt := some ⟨-61, 999500000⟩ }

/-- The device is due in the last microseconds before 1970, and its row only with the millisecond after them. -/
theorem isDue_row_within_millisecond_early : ∃ row,
    (runAll DeviceCall.run (Database.create "poll.db") DeviceCall.early).2.row? ⟨1⟩ = some row
      ∧ row.isDue (⟨-1, 999999999⟩ : Instant).toMillis = false
      ∧ row.isDue (⟨0, 999999⟩ : Instant).toMillis = true := by
  rcases hmemory : runAll DeviceCall.run MemoryStore.empty DeviceCall.early with ⟨answers, store⟩
  rcases hdatabase : runAll DeviceCall.run (Database.create "poll.db") DeviceCall.early with ⟨others, database⟩
  have hdevice : Store.readDevice? store ⟨0, 0⟩ ⟨1⟩ = .ok (some Device.early) := by
    rw [show store = (runAll DeviceCall.run MemoryStore.empty DeviceCall.early).2 by rw [hmemory]]
    rfl
  have hrow : database.row? ⟨1⟩ = some (.written Device.early (.whole 0)) := by
    rw [show database = (runAll DeviceCall.run (Database.create "poll.db") DeviceCall.early).2 by rw [hdatabase]]
    rfl
  obtain ⟨row, hfound, hdue⟩ :=
    isDue_row_within_millisecond hmemory hdatabase hdevice (by decide) (by decide) (by decide)
  obtain ⟨-, -, hlater⟩ := hdue ⟨-1, 999999999⟩ (by decide)
  refine ⟨row, hfound, ?_, hlater ⟨0, 999999⟩ (by decide) (by decide)⟩
  cases hfound.symm.trans hrow
  decide

/-- A device that was polled in the last minute of 2016, which had a leap second. -/
def Device.leaping : Device := { Device.sample 1 with lastPolledAt := some ⟨1483228740, 200000000⟩ }

/-- In the middle of the leap second the row of the device is due, but the device is not. -/
theorem isDue_row_leaping :
    (∀ last ∈ Device.leaping.lastPolledAt, last.IsOrdinary) ∧ Device.leaping.HasNext
      ∧ (Instant.addMillis ⟨1483228799, 1500000000⟩ 1).isSome = true
      ∧ (∃ row, ((Database.create "poll.db").upsertDevice Device.leaping).row? Device.leaping.id = some row
        ∧ row.isDue (⟨1483228799, 1500000000⟩ : Instant).toMillis = true)
      ∧ Device.leaping.isDue ⟨1483228799, 1500000000⟩ = some false := by
  refine ⟨by decide, by decide, by decide, ⟨.ofDevice Device.leaping, rfl, by decide⟩, by decide⟩

end RouterPoll
