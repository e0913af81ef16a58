import Mathlib.Tactic.FinCases
import RouterPoll.Pipeline.Scheduler
import RouterPoll.Proofs.Store.Upsert

/-!
# Next polls beyond the last instant

A device may have been polled so late, or have so long an interval, that its next poll lies beyond all instants. The database reckons in whole numbers and lists what is due all the same, whatever times and intervals it was told. The store in memory asks every device that is enabled and active for its next poll, and a single one without it leaves all of them without a listing: the scheduler that asked crashes. This is the only thing that keeps a listing from being answered.
-/

namespace RouterPoll

def DeviceCall.Fits : DeviceCall → Prop
  | upsert device => device.pollingInterval < Text.limit32
  | _ => True

theorem Device.isSome_isDue_iff {device : Device} {now : Instant} : (device.isDue now).isSome = true
    ↔ (device.pollingEnabled = true → device.status = .active → device.HasNext) := by
  unfold isDue HasNext
  cases device.pollingEnabled with
  | false => simp
  | true =>
      cases device.status with
      | active => cases device.lastPolledAt <;> simp
      | inactive => simp
      | maintenance => simp

/-! ### The database -/

namespace Database

variable {database : Database}

theorem isKept_run {call : DeviceCall} (hfits : call.Fits) (hkept : ∀ row ∈ database.devices, row.IsKept) :
    ∀ row ∈ (call.run database).2.devices, row.IsKept := by
  cases call with
  | upsert device => exact isKept_upsertDevice hkept hfits
  | markPolled id polledAt =>
      rw [run_markPolled]
      exact isKept_changed hkept fun row hrow => hrow.polled polledAt
  | recordFailure id =>
      rw [run_recordFailure]
      exact isKept_changed hkept fun row hrow => hrow.failed

theorem isKept_runAll {calls : List DeviceCall} (hfits : ∀ call ∈ calls, call.Fits)
    (hkept : ∀ row ∈ database.devices, row.IsKept) :
    ∀ row ∈ (runAll DeviceCall.run database calls).2.devices, row.IsKept := by
  induction calls generalizing database with
  | nil => exact hkept
  | cons call rest ih =>
      exact ih (fun other hmem => hfits other (List.mem_cons_of_mem _ hmem))
        (isKept_run (hfits call List.mem_cons_self) hkept)

theorem listDue_of_isKept (hkept : ∀ row ∈ database.devices, row.IsKept) (clock : Nat → Instant) (now : Instant)
    (limit : Nat) : ∃ devices, database.listDue clock now limit = .listed devices
      ∧ devices.map (·.id.text) = ((database.dueRows now.toMillis).take limit).map (·.id) := by
  have hread (row : DeviceRow) (hmem : row ∈ database.dueRows now.toMillis) (instant : Instant) :
      ∃ device, row.toDevice instant = .ok device ∧ device.id.text = row.id := by
    obtain ⟨device, failures, hinterval, rfl⟩ := hkept row (mem_dueRows.1 hmem).1
    exact ⟨_, DeviceRow.toDevice_of_fits hinterval failures, rfl⟩
  obtain ⟨devices, hlisted⟩ :=
    exists_listed (fun row hmem instant => (hread row hmem instant).imp fun _ => And.left) clock limit
  refine ⟨devices, hlisted, map_id_of_listed hlisted fun row hmem instant device hdevice => ?_⟩
  obtain ⟨found, hfound, hid⟩ := hread row hmem instant
  cases hfound.symm.trans hdevice
  exact hid

end Database

/-! ### The store in memory -/

namespace MemoryStore

variable {store : MemoryStore}

/-- Every known device that is enabled and active has its next poll in the covered years. -/
def HasNext (store : MemoryStore) : Prop :=
  ∀ clock device, Store.readDevice? store clock device.id = .ok (some device) → device.pollingEnabled = true →
    device.status = .active → device.HasNext

theorem IsReached.call (hreached : store.IsReached) (call : DeviceCall) : (call.run store).2.IsReached := by
  cases call with
  | upsert device => exact hreached.upserted device
  | markPolled id polledAt =>
      have hupdated := hreached.updated polledAt (.polled id polledAt)
      rw [run_polled] at hupdated
      rw [run_markPolled]
      exact hupdated
  | recordFailure id =>
      have hupdated := hreached.updated default (.failure id)
      rw [run_failure] at hupdated
      rw [run_recordFailure]
      exact hupdated

theorem IsReached.runAll (hreached : store.IsReached) (calls : List DeviceCall) :
    (RouterPoll.runAll DeviceCall.run store calls).2.IsReached := by
  induction calls generalizing store with
  | nil => exact hreached
  | cons call rest ih => exact ih (hreached.call call)

theorem all_isDue_iff (hreached : store.IsReached) (now : Instant) :
    (store.devices.values.map (·.device)).all (fun device => (device.isDue now).isSome) = true
      ↔ store.HasNext := by
  rw [List.all_eq_true]
  simp only [hreached.mem_devices_iff now, Device.isSome_isDue_iff]
  exact ⟨fun hall _ => hall, fun hnext => hnext now⟩

theorem listDue_of_hasNext (hreached : store.IsReached) (hnext : store.HasNext) (now : Instant) :
    ∃ due, IsDueList store now due ∧ ∀ limit, store.listDue now limit = .listed (due.take limit) := by
  refine ⟨_, isDueList hreached now, fun limit => ?_⟩
  rw [listDue, dueAmong_eq, if_pos ((all_isDue_iff hreached now).2 hnext)]

theorem listDue_of_not_hasNext (hreached : store.IsReached) (hnone : ¬ store.HasNext) (now : Instant)
    (limit : Nat) : store.listDue now limit = .overflowed := by
  rw [listDue, dueAmong_eq, if_neg fun hall => hnone ((all_isDue_iff hreached now).1 hall)]

end MemoryStore

/-! ### Passes -/

namespace Scheduler

variable {σ : Type} [Store σ] {store : σ} {scheduler : Scheduler} {now : Instant}

def isSpent (scheduler : Scheduler) : Bool :=
  Admission.budget scheduler.limit scheduler.admission.inFlight == 0 || scheduler.admission.queue.room == 0

theorem perform_of_pass (hrunning : scheduler.state = .running) {count : Nat} {admission : Admission}
    (hpass : scheduler.admission.pass store now scheduler.limit = (.ok (.admitted count), admission)) :
    scheduler.perform store now .pass = (.ok (.admitted count), { scheduler with admission }) := by
  simp [perform, hrunning, hpass]

theorem perform_of_listed (hrunning : scheduler.state = .running)
    (hlisted : ∀ limit, ∃ devices, Store.readDue store (fun _ => now) now limit = .listed devices) :
    ∃ count admission, scheduler.perform store now .pass
      = (.ok (.admitted count), { scheduler with admission }) := by
  obtain ⟨devices, hdevices⟩ :=
    hlisted (Admission.budget scheduler.limit scheduler.admission.inFlight + scheduler.admission.inFlight.size)
  have hpass : ∃ count admission, scheduler.admission.pass store now scheduler.limit
      = (.ok (.admitted count), admission) := by
    simp only [Admission.pass, hdevices]
    split
    · exact ⟨_, _, rfl⟩
    · exact ⟨_, _, rfl⟩
  obtain ⟨count, admission, hpass⟩ := hpass
  exact ⟨count, admission, perform_of_pass hrunning hpass⟩

/-- A scheduler that asks for a list that has no answer crashes over it. -/
theorem perform_of_overflowed (hrunning : scheduler.state = .running)
    (hoverflowed : ∀ limit, Store.readDue store (fun _ => now) now limit = .overflowed) :
    scheduler.perform store now .pass = if scheduler.isSpent then (.ok (.admitted 0), scheduler)
      else (.error .crashed, { scheduler with state := .crashed }) := by
  cases hspent : scheduler.isSpent with
  | true =>
      rw [if_pos rfl]
      exact perform_of_pass hrunning (if_pos hspent)
  | false =>
      have hpass : scheduler.admission.pass store now scheduler.limit
          = (.error .crashed, scheduler.admission) := by
        rw [Admission.pass, hoverflowed]
        exact if_neg (Bool.not_eq_true _ ▸ hspent)
      simp [perform, hrunning, hpass]

end Scheduler

/-- However a database came to know its devices, it lists those whose rows are due, as far as the limit goes, and a pass over it is answered. The store in memory lists the front of its due list, if every device that is enabled and active has its next poll in the covered years, and a pass over it is answered then; otherwise it lists nothing, at any time and under any limit, and a scheduler that asks it crashes. -/
theorem listDue_unless_overflowed {path : String} {calls : List DeviceCall}
    {answers others : List (Except StorageError (Option Nat))} {store : MemoryStore} {database : Database}
    (hfits : ∀ call ∈ calls, call.Fits)
    (hmemory : runAll DeviceCall.run MemoryStore.empty calls = (answers, store))
    (hdatabase : runAll DeviceCall.run (Database.create path) calls = (others, database))
    (now : Instant) {scheduler : Scheduler} (hrunning : scheduler.state = .running) :
    ((∀ clock limit, ∃ devices, Store.readDue database clock now limit = .listed devices
        ∧ devices.map (·.id.text) = ((database.dueRows now.toMillis).take limit).map (·.id))
      ∧ ∃ count admission, scheduler.perform database now .pass
        = (.ok (.admitted count), { scheduler with admission }))
    ∧ (store.HasNext →
      (∃ due, IsDueList store now due ∧ ∀ clock limit, Store.readDue store clock now limit = .listed (due.take limit))
        ∧ ∃ count admission, scheduler.perform store now .pass
          = (.ok (.admitted count), { scheduler with admission }))
    ∧ (¬ store.HasNext → (∀ clock limit, Store.readDue store clock now limit = .overflowed)
      ∧ scheduler.perform store now .pass = if scheduler.isSpent then (.ok (.admitted 0), scheduler)
        else (.error .crashed, { scheduler with state := .crashed })) := by
  have hkept : ∀ row ∈ database.devices, row.IsKept := by
    have hnone : ∀ row ∈ (Database.create path).devices, row.IsKept := fun row hmem => by cases hmem
    have hall := Database.isKept_runAll hfits hnone
    rwa [hdatabase] at hall
  have hreached : store.IsReached := by
    have hall := MemoryStore.IsReached.empty.runAll calls
    rwa [hmemory] at hall
  have hlisted (clock : Nat → Instant) (limit : Nat) := Database.listDue_of_isKept hkept clock now limit
  refine ⟨⟨hlisted, Scheduler.perform_of_listed hrunning fun limit => (hlisted _ limit).imp fun _ => And.left⟩,
    fun hnext => ?_, fun hnone => ?_⟩
  · obtain ⟨due, hdue, hfront⟩ := MemoryStore.listDue_of_hasNext hreached hnext now
    exact ⟨⟨due, hdue, fun _ => hfront⟩, Scheduler.perform_of_listed hrunning fun limit => ⟨_, hfront limit⟩⟩
  · have hoverflowed (limit : Nat) := MemoryStore.listDue_of_not_hasNext hreached hnone now limit
    exact ⟨fun _ => hoverflowed, Scheduler.perform_of_overflowed hrunning hoverflowed⟩

/-! ### Two devices -/

def Device.farthest : Device := { Device.sample 1 with lastPolledAt := some ⟨8210266876799, 0⟩ }

/-- That device in maintenance, with a mark even later, and a device that was never polled. -/
def DeviceCall.remote : List DeviceCall :=
  [.upsert { Device.farthest with status := .maintenance }, .upsert (.sample 2),
    .markPolled ⟨1⟩ ⟨8210266876799, 999999999⟩]

/-- In maintenance the device keeps neither store from listing the other one. -/
theorem listDue_unless_overflowed_remote :
    (∃ devices, Store.readDue (runAll DeviceCall.run (Database.create "poll.db") DeviceCall.remote).2
        (fun _ => ⟨0, 0⟩) ⟨0, 0⟩ 1 = .listed devices ∧ devices.map (·.id.text) = [Uuid.text ⟨2⟩])
      ∧ ∃ due, Store.readDue (runAll DeviceCall.run MemoryStore.empty DeviceCall.remote).2
        (fun _ => ⟨0, 0⟩) ⟨0, 0⟩ 1 = .listed due ∧ due = [.sample 2] := by
  have hfits : ∀ call ∈ DeviceCall.remote, call.Fits := by
    intro call hmem
    fin_cases hmem
    · exact (by decide : 60 < Text.limit32)
    · exact (by decide : 60 < Text.limit32)
    · exact trivial
  have hrunning : (Scheduler.create 1 ⟨.empty, .ofCapacity 1⟩).state = .running := rfl
  have hreached : (runAll DeviceCall.run MemoryStore.empty DeviceCall.remote).2.IsReached :=
    MemoryStore.IsReached.empty.runAll _
  have hnext := (MemoryStore.all_isDue_iff hreached ⟨0, 0⟩).1 (by decide +kernel)
  obtain ⟨⟨hrows, -⟩, hlists, -⟩ :=
    listDue_unless_overflowed hfits Prod.mk.eta.symm Prod.mk.eta.symm ⟨0, 0⟩ hrunning
  constructor
  · obtain ⟨devices, hdevices, hids⟩ := hrows (fun _ => ⟨0, 0⟩) 1
    have hdue : (runAll DeviceCall.run (Database.create "poll.db") DeviceCall.remote).2.devices.filter
        (fun row => row.isDue 0) = [.ofDevice (.sample 2)] := by decide +kernel
    refine ⟨devices, hdevices, hids.trans ?_⟩
    rw [Database.dueRows, show (⟨0, 0⟩ : Instant).toMillis = 0 from rfl, hdue, List.mergeSort_singleton]
    rfl
  · obtain ⟨⟨due, -, hfront⟩, -⟩ := hlists hnext
    refine ⟨due.take 1, hfront _ 1, ?_⟩
    have hone : Store.readDue (runAll DeviceCall.run MemoryStore.empty DeviceCall.remote).2
        (fun _ => ⟨0, 0⟩) ⟨0, 0⟩ 1 = .listed [.sample 2] := by decide +kernel
    exact Listing.listed.inj ((hfront _ 1).symm.trans hone)

/-- The same device when it is active, and the other one. -/
def DeviceCall.beyond : List DeviceCall := [.upsert .farthest, .upsert (.sample 2)]

/-- The active device keeps the store in memory from listing the other one, which is due, and a scheduler that asks crashes. The database lists the other one. -/
theorem listDue_overflowed_beyond :
    (runAll DeviceCall.run MemoryStore.empty DeviceCall.beyond).1 = [.ok none, .ok none]
      ∧ Store.readDevice? (runAll DeviceCall.run MemoryStore.empty DeviceCall.beyond).2 ⟨0, 0⟩ ⟨2⟩
        = .ok (some (.sample 2))
      ∧ (Device.sample 2).isDue ⟨0, 0⟩ = some true
      ∧ Store.readDue (runAll DeviceCall.run MemoryStore.empty DeviceCall.beyond).2 (fun _ => ⟨0, 0⟩) ⟨0, 0⟩ 10
        = .overflowed
      ∧ ((Scheduler.create 1 ⟨.empty, .ofCapacity 1⟩).perform
        (runAll DeviceCall.run MemoryStore.empty DeviceCall.beyond).2 ⟨0, 0⟩ .pass).1 = .error .crashed
      ∧ Store.readDue (runAll DeviceCall.run (Database.create "poll.db") DeviceCall.beyond).2
        (fun _ => ⟨0, 0⟩) ⟨0, 0⟩ 10 = .listed [.sample 2] := by
  have hdue : (runAll DeviceCall.run (Database.create "poll.db") DeviceCall.beyond).2.devices.filter
      (fun row => row.isDue 0) = [.ofDevice (.sample 2)] := by decide +kernel
  have hread : (DeviceRow.ofDevice (.sample 2)).toDevice ⟨0, 0⟩ = .ok (.sample 2) :=
    DeviceRow.toDevice_of_fits (by decide) (.whole 0)
  have hone : DeviceRow.toDevices (fun _ => ⟨0, 0⟩) [.ofDevice (.sample 2)] = .ok [.sample 2] := by
    rw [DeviceRow.toDevices, List.zipIdx_singleton, List.mapM_cons]
    show (do return (← (DeviceRow.ofDevice (.sample 2)).toDevice ⟨0, 0⟩) :: []) = _
    rw [hread]
    rfl
  refine ⟨by decide +kernel, rfl, by decide, by decide +kernel, by decide +kernel, ?_⟩
  show Database.listDue _ _ _ _ = _
  rw [Database.listDue, show (⟨0, 0⟩ : Instant).toMillis = 0 from rfl, hdue, List.mergeSort_singleton,
    List.take_of_length_le (Nat.le_add_left 1 9), hone]

end RouterPoll
