import RouterPoll.Proofs.Store.Agreement

/-!
# Failures in a row

Both stores count the failures of a device since it was last marked as polled. The store in memory counts in 32 bits and stays at the largest number. The database counts in a cell, which holds every count of 64 bits with a sign and then turns into a double, and narrows the cell to 32 bits when it is read: a failure is answered by the largest number where the count does not fit, but whoever looks inside is shown a zero. So the two agree in what they show as long as the count fits 32 bits, and no longer.
-/

namespace RouterPoll

def saturated (count : Nat) : Nat := min count (Text.limit32 - 1)

theorem saturated_of_lt {count : Nat} (hfits : count < Text.limit32) : saturated count = count := by
  unfold saturated
  omega

theorem saturated_of_le {count : Nat} (hbeyond : Text.limit32 ≤ count) :
    saturated count = Text.limit32 - 1 := by
  unfold saturated
  omega

theorem saturated_succ (count : Nat) :
    min (saturated count + 1) (Text.limit32 - 1) = saturated (count + 1) := by
  unfold saturated
  omega

/-! ### What the calls say -/

namespace DeviceCall

def deviceId : DeviceCall → Uuid
  | upsert device => device.id
  | markPolled id _ => id
  | recordFailure id => id

def stores (id : Uuid) : DeviceCall → Bool
  | upsert device => device.id == id
  | _ => false

def marks (id : Uuid) : DeviceCall → Bool
  | markPolled other _ => other == id
  | _ => false

def fails (id : Uuid) : DeviceCall → Bool
  | recordFailure other => other == id
  | _ => false

/-- The calls after the one that first put a device in. -/
def sinceStored (id : Uuid) (calls : List DeviceCall) : Option (List DeviceCall) :=
  (calls.dropWhile fun call => !call.stores id).tail?

/-- How many failures of a device there are behind the last call that marks it as polled. -/
def sinceMark (id : Uuid) (calls : List DeviceCall) : Nat :=
  (calls.reverse.takeWhile fun call => !call.marks id).countP (·.fails id)

/-- The failures of a device since it was last marked as polled, or else since it was first put in. -/
def tally (id : Uuid) (calls : List DeviceCall) : Option Nat :=
  (sinceStored id calls).map (sinceMark id)

theorem sinceStored_append (id : Uuid) (calls : List DeviceCall) (call : DeviceCall) :
    sinceStored id (calls ++ [call]) = match sinceStored id calls with
      | some later => some (later ++ [call])
      | none => if call.stores id then some [] else none := by
  induction calls with
  | nil =>
      rw [List.nil_append, sinceStored, List.dropWhile_cons]
      cases call.stores id <;> rfl
  | cons first rest ih =>
      unfold sinceStored at ih ⊢
      rw [List.cons_append, List.dropWhile_cons, List.dropWhile_cons]
      cases first.stores id with
      | true => rfl
      | false => exact ih

theorem sinceMark_append (id : Uuid) (calls : List DeviceCall) (call : DeviceCall) :
    sinceMark id (calls ++ [call])
      = if call.marks id then 0 else sinceMark id calls + if call.fails id then 1 else 0 := by
  unfold sinceMark
  rw [List.reverse_append, List.reverse_singleton, List.singleton_append, List.takeWhile_cons]
  cases call.marks id with
  | true => rfl
  | false =>
      simp only [Bool.not_false, if_true, Bool.false_eq_true, if_false]
      rw [List.countP_cons]

/-- What is counted call by call is what the calls say as a whole. -/
theorem tally_eq_streak (id : Uuid) (calls : List DeviceCall) : tally id calls = streak id calls := by
  induction calls using List.reverseRecOn with
  | nil => rfl
  | append_singleton calls call ih =>
      rw [streak_append, ← ih, tally, tally, sinceStored_append]
      cases hstored : sinceStored id calls with
      | none => cases call <;> simp [countFor, stores, sinceMark]
      | some later =>
          simp only [Option.map_some, sinceMark_append]
          cases call <;> simp [countFor, marks, fails] <;> split <;> simp

def count : DeviceCall → Option Nat → Option Nat
  | upsert _, failures => some (failures.getD 0)
  | markPolled _ _, failures => failures.map fun _ => 0
  | recordFailure _, failures => failures.map (· + 1)

theorem countFor_eq (id : Uuid) (failures : Option Nat) (call : DeviceCall) :
    countFor id failures call = if call.deviceId = id then call.count failures else failures := by
  cases call <;> rfl

end DeviceCall

theorem runAll_invariant {σ α β : Type} {run : σ → α → β × σ} {store : σ} (holds : List α → σ → Prop)
    (hstart : holds [] store)
    (hstep : ∀ {front : List α} {store : σ} (call : α), holds front store →
      holds (front ++ [call]) (run store call).2)
    (calls : List α) : holds calls (runAll run store calls).2 := by
  suffices hrest : ∀ rest front {store : σ}, holds front store →
      holds (front ++ rest) (runAll run store rest).2 from hrest calls [] hstart
  intro rest
  induction rest with
  | nil =>
      intro front store hfront
      rw [List.append_nil]
      exact hfront
  | cons call rest ih =>
      intro front store hfront
      rw [List.append_cons]
      exact ih (front ++ [call]) (hstep call hfront)

/-! ### The store in memory -/

namespace MemoryStore

def changedBy (old : Option MemoryEntry) : DeviceCall → Option MemoryEntry
  | .upsert device => some (mergedEntry device old)
  | .markPolled _ polledAt => old.map (·.polled polledAt)
  | .recordFailure _ => old.map (·.failed)

theorem get?_call (store : MemoryStore) (call : DeviceCall) (id : Uuid) :
    (call.run store).2.devices.get? id = if call.deviceId = id then
        changedBy (store.devices.get? id) call
      else store.devices.get? id := by
  cases call with
  | upsert device => exact get?_upsertDevice store device id
  | markPolled other polledAt =>
      rw [run_markPolled]
      exact get?_changed store other _ id
  | recordFailure other =>
      rw [run_recordFailure]
      exact get?_changed store other _ id

theorem failures_changedBy {old : Option MemoryEntry} {failures : Option Nat} (call : DeviceCall)
    (hcount : old.map (·.failures) = failures.map saturated) :
    (changedBy old call).map (·.failures) = (call.count failures).map saturated := by
  cases call with
  | upsert device =>
      show some ((old.map (·.failures)).getD 0) = _
      rw [hcount]
      cases failures <;> rfl
  | markPolled id polledAt =>
      have hzero := congrArg (Option.map fun _ => 0) hcount
      rw [Option.map_map, Option.map_map] at hzero
      rw [changedBy, DeviceCall.count, Option.map_map, Option.map_map]
      exact hzero
  | recordFailure id =>
      have hnext := congrArg (Option.map fun count => min (count + 1) (Text.limit32 - 1)) hcount
      rw [Option.map_map, Option.map_map] at hnext
      rw [changedBy, DeviceCall.count, Option.map_map, Option.map_map]
      exact hnext.trans (Option.map_congr fun count _ => saturated_succ count)

theorem failures?_run {store : MemoryStore} {id : Uuid} {failures : Option Nat} (call : DeviceCall)
    (hcount : store.failures? id = failures.map saturated) :
    (call.run store).2.failures? id = (call.countFor id failures).map saturated := by
  unfold failures? at hcount ⊢
  rw [get?_call, DeviceCall.countFor_eq]
  split
  · exact failures_changedBy call hcount
  · exact hcount

theorem answer_of_failures? {store : MemoryStore} {id : Uuid} {failures : Option Nat}
    (hcount : store.failures? id = failures.map saturated) :
    ((DeviceCall.recordFailure id).run store).1 = failures.elim (.error (.deviceNotFound id))
      fun count => .ok (some (saturated (count + 1))) := by
  unfold failures? at hcount
  rw [run_recordFailure]
  cases failures with
  | none =>
      rw [Option.map_eq_none_iff.1 hcount]
      rfl
  | some count =>
      obtain ⟨entry, hentry, hsame⟩ := Option.map_eq_some_iff.1 hcount
      rw [hentry]
      show Except.ok (some (min (entry.failures + 1) (Text.limit32 - 1))) = _
      rw [hsame, saturated_succ]
      rfl

theorem failures?_runAll (calls : List DeviceCall) (id : Uuid) :
    (RouterPoll.runAll DeviceCall.run empty calls).2.failures? id = (DeviceCall.tally id calls).map saturated := by
  rw [DeviceCall.tally_eq_streak]
  refine runAll_invariant
    (fun front (store : MemoryStore) => store.failures? id = (DeviceCall.streak id front).map saturated)
    rfl ?_ calls
  intro front store call hcount
  rw [DeviceCall.streak_append]
  exact failures?_run call hcount

end MemoryStore

/-! ### The database -/

namespace Cell

/-- The double that follows the largest number of a cell. -/
def beyond : Cell := .number (.real 9223372036854775808)

def ofCount (count : Nat) : Cell := if count ≤ Text.maxSigned64 then whole count else beyond

theorem ofCount_zero : ofCount 0 = whole 0 := if_pos (Nat.zero_le _)

theorem ofCount_plus_one (count : Nat) :
    ((ofCount count).plus (whole 1)).inWholeColumn = ofCount (count + 1) := by
  have hmax : Text.maxSigned64 = 9223372036854775807 := rfl
  rcases Nat.lt_trichotomy count Text.maxSigned64 with hlt | hlast | hgt
  · have hfits : Quantity.fits (count + 1) = true := by
      rw [Quantity.fits_iff]
      omega
    rw [ofCount, ofCount, if_pos hlt.le, if_pos (Nat.succ_le_of_lt hlt)]
    show (Quantity.combine (· + ·) (· + ·) (.whole count) (.whole 1)).inWholeColumn = _
    simp only [Quantity.combine, hfits, if_true]
    rfl
  · have hturn : ((whole Text.maxSigned64).plus (whole 1)).inWholeColumn = beyond := by decide +kernel
    rw [hlast, ofCount, ofCount, if_pos le_rfl, if_neg (Nat.not_succ_le_self _), hturn]
  · have hstay : (beyond.plus (whole 1)).inWholeColumn = beyond := by decide +kernel
    rw [ofCount, ofCount, if_neg (by omega), if_neg (by omega), hstay]

/-- What is read of a count: the count if it fits 32 bits, another number if not, and nothing of the double. -/
def told (fallback count : Nat) : Except StorageError Nat :=
  if count < Text.limit32 then .ok count
  else if count ≤ Text.maxSigned64 then .ok fallback
  else .error (beyond.mismatch "0" "i64" "INTEGER")

theorem readWhole_ofCount (fallback count : Nat) :
    ((ofCount count).readWhole "0").map (Column.toNat Text.limit32 fallback) = told fallback count := by
  have hlimit : Text.limit32 ≤ Text.maxSigned64 := by decide
  unfold ofCount told
  by_cases hwhole : count ≤ Text.maxSigned64
  · rw [if_pos hwhole, if_pos hwhole]
    show Except.ok (Column.toNat Text.limit32 fallback count) = _
    by_cases hfits : count < Text.limit32
    · rw [if_pos hfits, Column.toNat, if_pos ⟨Int.natCast_nonneg _, Int.ofNat_lt.2 hfits⟩]
      rfl
    · rw [if_neg hfits, Column.toNat, if_neg fun hboth => hfits (Int.ofNat_lt.1 hboth.2)]
  · rw [if_neg hwhole, if_neg hwhole, if_neg (by omega)]
    rfl

theorem map_some_eq_ok {count : Nat} {answer : Except StorageError Nat} :
    answer.map some = .ok (some count) ↔ answer = .ok count := by
  cases answer <;> simp [Except.map]

/-- A number of its own in place of a large count is right if it is the largest one. -/
theorem told_eq_saturated_iff {fallback count : Nat} :
    told fallback count = .ok (saturated count) ↔ count < Text.limit32
      ∨ fallback = Text.limit32 - 1 ∧ count ≤ Text.maxSigned64 := by
  unfold told
  by_cases hfits : count < Text.limit32
  · simp [hfits, saturated_of_lt]
  · rw [if_neg hfits, saturated_of_le (not_lt.1 hfits)]
    by_cases hwhole : count ≤ Text.maxSigned64
    · simp [hfits, hwhole]
    · simp [hfits, hwhole]

end Cell

namespace Database

def changedBy (old : Option DeviceRow) : DeviceCall → Option DeviceRow
  | .upsert device => some ((old.map (·.replace (.ofDevice device))).getD (.ofDevice device))
  | .markPolled _ polledAt => old.map (·.polled polledAt)
  | .recordFailure _ => old.map (·.failed)

theorem row?_call (database : Database) (call : DeviceCall) (id : Uuid) :
    (call.run database).2.row? id = if call.deviceId = id then changedBy (database.row? id) call
      else database.row? id := by
  cases call with
  | upsert device => exact row?_upsertDevice database device id
  | markPolled other polledAt =>
      have hid (row : DeviceRow) : (row.polled polledAt).id = row.id := rfl
      rw [run_markPolled]
      exact row?_changed hid id
  | recordFailure other =>
      have hid (row : DeviceRow) : row.failed.id = row.id := rfl
      rw [run_recordFailure]
      exact row?_changed hid id

theorem row_of_cell {row? : Option DeviceRow} {failures : Option Nat}
    (hcount : row?.map (·.failures) = failures.map Cell.ofCount) :
    row? = none ∧ failures = none
      ∨ ∃ row count, row? = some row ∧ failures = some count ∧ row.failures = Cell.ofCount count := by
  cases failures with
  | none => exact .inl ⟨Option.map_eq_none_iff.1 hcount, rfl⟩
  | some count =>
      obtain ⟨row, hrow, hcell⟩ := Option.map_eq_some_iff.1 hcount
      exact .inr ⟨row, count, hrow, rfl, hcell⟩

theorem cell_failed {row : DeviceRow} {count : Nat} (hcell : row.failures = Cell.ofCount count) :
    row.failed.failures = Cell.ofCount (count + 1) := by
  rw [DeviceRow.failed, hcell, Cell.ofCount_plus_one]

theorem cell_changedBy {old : Option DeviceRow} {failures : Option Nat} (call : DeviceCall)
    (hcount : old.map (·.failures) = failures.map Cell.ofCount) :
    (changedBy old call).map (·.failures) = (call.count failures).map Cell.ofCount := by
  rcases row_of_cell hcount with ⟨rfl, rfl⟩ | ⟨row, count, rfl, rfl, hcell⟩
  · cases call with
    | upsert device => exact congrArg some Cell.ofCount_zero.symm
    | markPolled id polledAt => rfl
    | recordFailure id => rfl
  · cases call with
    | upsert device =>
        simp only [changedBy, DeviceCall.count, Option.map_some, Option.getD_some, DeviceRow.replace, hcell]
    | markPolled id polledAt => exact congrArg some Cell.ofCount_zero.symm
    | recordFailure id =>
        show some row.failed.failures = some (Cell.ofCount (count + 1))
        rw [cell_failed hcell]

theorem cell_run {database : Database} {id : Uuid} {failures : Option Nat} (call : DeviceCall)
    (hcount : (database.row? id).map (·.failures) = failures.map Cell.ofCount) :
    ((call.run database).2.row? id).map (·.failures) = (call.countFor id failures).map Cell.ofCount := by
  rw [row?_call, DeviceCall.countFor_eq]
  split
  · exact cell_changedBy call hcount
  · exact hcount

theorem cell_runAll (path : String) (calls : List DeviceCall) (id : Uuid) :
    ((runAll DeviceCall.run (create path) calls).2.row? id).map (·.failures)
      = (DeviceCall.tally id calls).map Cell.ofCount := by
  rw [DeviceCall.tally_eq_streak]
  refine runAll_invariant (fun front (database : Database) =>
    (database.row? id).map (·.failures) = (DeviceCall.streak id front).map Cell.ofCount) rfl ?_ calls
  intro front database call hcount
  rw [DeviceCall.streak_append]
  exact cell_run call hcount

theorem failures?_of_cell {database : Database} {id : Uuid} {failures : Option Nat}
    (hcount : (database.row? id).map (·.failures) = failures.map Cell.ofCount) :
    database.failures? id = failures.elim (.ok none) fun count => (Cell.told 0 count).map some := by
  unfold failures?
  rcases row_of_cell hcount with ⟨hnone, rfl⟩ | ⟨row, count, hsome, rfl, hcell⟩
  · rw [hnone]
    rfl
  · rw [hsome]
    show (countOf 0 row).map some = _
    rw [countOf, hcell, Cell.readWhole_ofCount]
    rfl

theorem answer_of_cell {database : Database} {id : Uuid} {failures : Option Nat}
    (hcount : (database.row? id).map (·.failures) = failures.map Cell.ofCount) :
    ((DeviceCall.recordFailure id).run database).1 = failures.elim (.error (.deviceNotFound id))
      fun count => (Cell.told (Text.limit32 - 1) (count + 1)).map some := by
  rw [run_recordFailure]
  rcases row_of_cell hcount with ⟨hnone, rfl⟩ | ⟨row, count, hsome, rfl, hcell⟩
  · rw [hnone]
    rfl
  · rw [hsome]
    show (countOf (Text.limit32 - 1) row.failed).map some = _
    rw [countOf, cell_failed hcell, Cell.readWhole_ofCount]
    rfl

end Database

/-! ### What both stores tell -/

/-- A call that neither marks a known device nor is a failure of it leaves its count alone. -/
theorem DeviceCall.countFor_of_unrelated {id : Uuid} {call : DeviceCall} {failures : Option Nat}
    (hcall : call.deviceId ≠ id ∨ failures.isSome = true ∧ ∃ device, call = .upsert device) :
    call.countFor id failures = failures := by
  rw [countFor_eq]
  rcases hcall with hother | ⟨hknown, device, rfl⟩
  · exact if_neg hother
  · obtain ⟨count, rfl⟩ := Option.isSome_iff_exists.1 hknown
    exact ite_self _

/-- After any calls both stores know the failures of a device in a row, of which the one in memory tells as many as 32 bits hold. The database answers one more failure in the same way up to the largest number of 64 bits, but it shows the count only while that fits 32 bits. Calls about other devices do not change what either shows, and neither does putting a known device in again. -/
theorem failures_in_a_row (path : String) (calls : List DeviceCall) (id : Uuid) :
    let store := (runAll DeviceCall.run MemoryStore.empty calls).2
    let database := (runAll DeviceCall.run (Database.create path) calls).2
    let failures := DeviceCall.tally id calls
    let failure := DeviceCall.recordFailure id
    (store.failures? id = failures.map saturated
        ∧ (failure.run store).1 = failures.elim (.error (.deviceNotFound id))
          fun count => .ok (some (saturated (count + 1))))
      ∧ (database.failures? id = failures.elim (.ok none) (fun count => (Cell.told 0 count).map some)
        ∧ (failure.run database).1 = failures.elim (.error (.deviceNotFound id))
          fun count => (Cell.told (Text.limit32 - 1) (count + 1)).map some)
      ∧ (∀ count ∈ failures,
        (database.failures? id = .ok (some (saturated count)) ↔ count < Text.limit32)
          ∧ ((failure.run database).1 = .ok (some (saturated (count + 1))) ↔ count < Text.maxSigned64))
      ∧ ∀ call : DeviceCall,
        call.deviceId ≠ id ∨ failures.isSome = true ∧ (∃ device, call = .upsert device) →
        (call.run store).2.failures? id = store.failures? id
          ∧ (call.run database).2.failures? id = database.failures? id := by
  intro store database failures failure
  have hmemory : store.failures? id = failures.map saturated := MemoryStore.failures?_runAll calls id
  have hcell : (database.row? id).map (·.failures) = failures.map Cell.ofCount :=
    Database.cell_runAll path calls id
  have hshown := Database.failures?_of_cell hcell
  have hanswer := Database.answer_of_cell hcell
  refine ⟨⟨hmemory, MemoryStore.answer_of_failures? hmemory⟩, ⟨hshown, hanswer⟩, ?_, ?_⟩
  · intro count hcount
    have hlimit : Text.limit32 - 1 < Text.maxSigned64 := by decide
    rw [hshown, hanswer, Option.mem_def.1 hcount]
    constructor
    · show (Cell.told 0 count).map some = .ok (some (saturated count)) ↔ _
      rw [Cell.map_some_eq_ok, Cell.told_eq_saturated_iff]
      have hpositive : (0 : Nat) ≠ Text.limit32 - 1 := by decide
      simp only [hpositive, false_and, or_false]
    · show (Cell.told (Text.limit32 - 1) (count + 1)).map some = .ok (some (saturated (count + 1))) ↔ _
      rw [Cell.map_some_eq_ok, Cell.told_eq_saturated_iff]
      omega
  · intro call hcall
    have hsame := DeviceCall.countFor_of_unrelated hcall
    have hcellAfter := Database.cell_run call hcell
    rw [hsame] at hcellAfter
    constructor
    · rw [MemoryStore.failures?_run call hmemory, hsame, hmemory]
    · rw [Database.failures?_of_cell hcellAfter, hshown]

def DeviceCall.relapse : List DeviceCall :=
  [.upsert (.sample 1), .upsert (.sample 2), .recordFailure ⟨1⟩, .markPolled ⟨1⟩ ⟨1000, 0⟩, .recordFailure ⟨1⟩,
    .recordFailure ⟨2⟩]

theorem failures_in_a_row_relapse :
    let store := (runAll DeviceCall.run MemoryStore.empty DeviceCall.relapse).2
    let database := (runAll DeviceCall.run (Database.create "poll.db") DeviceCall.relapse).2
    (DeviceCall.tally ⟨1⟩ DeviceCall.relapse = some 1 ∧ 1 < Text.limit32)
      ∧ store.failures? ⟨1⟩ = some 1 ∧ database.failures? ⟨1⟩ = .ok (some 1)
      ∧ ((DeviceCall.recordFailure ⟨1⟩).run database).1 = .ok (some 2)
      ∧ ((DeviceCall.recordFailure ⟨2⟩).run database).2.failures? ⟨1⟩ = database.failures? ⟨1⟩ := by
  intro store database
  have htally : DeviceCall.tally ⟨1⟩ DeviceCall.relapse = some 1 := by decide
  obtain ⟨⟨hstore, _⟩, _, hright, hkept⟩ := failures_in_a_row "poll.db" DeviceCall.relapse ⟨1⟩
  obtain ⟨hshown, hanswer⟩ := hright 1 htally
  refine ⟨⟨htally, by decide⟩, ?_, hshown.2 (by decide), hanswer.2 (by decide), ?_⟩
  · rw [hstore, htally]
    rfl
  · exact (hkept (.recordFailure ⟨2⟩) (.inl (by decide))).2

/-! ### A long outage -/

def DeviceCall.outage (device : Device) (count : Nat) : List DeviceCall :=
  .upsert device :: List.replicate count (.recordFailure device.id)

theorem DeviceCall.tally_outage (device : Device) (count : Nat) :
    tally device.id (outage device count) = some count := by
  have hsince : sinceStored device.id (outage device count)
      = some (List.replicate count (.recordFailure device.id)) := by
    simp [sinceStored, outage, stores]
  rw [tally, hsince, Option.map_some, sinceMark, List.reverse_replicate, List.takeWhile_replicate]
  simp [marks, fails, List.countP_replicate]

/-- A device with more failures than 32 bits can count. -/
def DeviceCall.longOutage : List DeviceCall := outage (.sample 1) Text.limit32

/-- After as many failures as 32 bits can not hold, the database shows none, where the store in memory shows the largest number. -/
theorem outage_shown_as_zero :
    DeviceCall.tally ⟨1⟩ DeviceCall.longOutage = some 4294967296
      ∧ (runAll DeviceCall.run MemoryStore.empty DeviceCall.longOutage).2.failures? ⟨1⟩
        = some 4294967295
      ∧ (runAll DeviceCall.run (Database.create "poll.db") DeviceCall.longOutage).2.failures? ⟨1⟩
        = .ok (some 0) := by
  have htally : DeviceCall.tally (Device.sample 1).id DeviceCall.longOutage = some Text.limit32 :=
    DeviceCall.tally_outage (.sample 1) Text.limit32
  refine ⟨htally, ?_, ?_⟩
  · refine (MemoryStore.failures?_runAll _ (Device.sample 1).id).trans ?_
    rw [htally, Option.map_some, saturated_of_le le_rfl]
    rfl
  · refine (Database.failures?_of_cell (Database.cell_runAll _ _ (Device.sample 1).id)).trans ?_
    rw [htally]
    show (Cell.told 0 Text.limit32).map some = _
    rw [Cell.told, if_neg (lt_irrefl _), if_pos (by decide)]
    rfl

end RouterPoll
