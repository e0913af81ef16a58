import RouterPoll.Proofs.Store.Memory
import RouterPoll.Proofs.Time.Instant

/-!
# What a schedule relies on

A store lists devices that are due, and what it says of a device changes only when the device is marked as polled: everything else that the processor writes leaves the description of the device alone. These laws are all that the proofs about passes know of a store. A store may round the times it keeps, may give what the clock shows for a time it can not keep, and need not have an answer for every store value that can be written down, so the laws are about sound stores and speak of times as they are kept.
-/

namespace RouterPoll

/-- An update that dates a device, if it does, inside the covered years. -/
def StoreUpdate.IsDated : StoreUpdate → Prop
  | polled _ polledAt => polledAt.IsCovered
  | _ => True

instance : DecidablePred StoreUpdate.IsDated
  | .polled _ polledAt => inferInstanceAs (Decidable polledAt.IsCovered)
  | .history _ => isTrue trivial
  | .metrics _ => isTrue trivial
  | .sessions _ _ _ => isTrue trivial
  | .failure _ => isTrue trivial

/-- The laws, for a store that is sound. -/
class LawfulStore (σ : Type) [Store σ] where
  IsSound : σ → Prop
  /-- A time as the store gives it back to a reader with a clock. -/
  kept : (clock : Instant) → Instant → Instant
  isSound_run {store : σ} (now : Instant) {update : StoreUpdate} (hdated : update.IsDated)
    (hsound : IsSound store) : IsSound (update.run now store).2
  due_of_listed {store : σ} {clock : Nat → Instant} {now : Instant} {limit : Nat} {devices : List Device}
    {device : Device} (hsound : IsSound store) (hnow : now.IsOrdinary)
    (hlisted : Store.readDue store clock now limit = .listed devices) (hmem : device ∈ devices)
    (later : Instant) :
    ∃ stored, Store.readDevice? store later device.id = .ok (some stored) ∧ stored.isDue now = some true
  nodup_of_listed {store : σ} {clock : Nat → Instant} {now : Instant} {limit : Nat} {devices : List Device}
    (hsound : IsSound store) (hlisted : Store.readDue store clock now limit = .listed devices) :
    (devices.map (·.id)).Nodup
  device?_of_other {store : σ} {clock now : Instant} {update : StoreUpdate} {id : Uuid} {stored : Device}
    (hsound : IsSound store) (hother : ∀ polledAt, update ≠ .polled id polledAt)
    (hstored : Store.readDevice? store clock id = .ok (some stored)) :
    Store.readDevice? (update.run now store).2 clock id = .ok (some stored)
  device?_of_polled {store : σ} {clock now polledAt : Instant} {id : Uuid} {stored : Device}
    (hsound : IsSound store) (hdone : ((StoreUpdate.polled id polledAt).run now store).1.isOk = true)
    (hstored : Store.readDevice? store clock id = .ok (some stored)) :
    Store.readDevice? ((StoreUpdate.polled id polledAt).run now store).2 clock id
      = .ok (some { stored with lastPolledAt := some (kept clock polledAt) })

/-- An instant as a store of a kind gives it back to a reader with a clock. -/
def Instant.keptIn (instant : Instant) (σ : Type) [Store σ] [LawfulStore σ] (clock : Instant) : Instant :=
  @LawfulStore.kept σ _ _ clock instant

theorem StoreUpdate.run_polled_of_refused {σ : Type} [Store σ] {now polledAt : Instant} {store : σ}
    {id : Uuid} (hrefused : ((polled id polledAt).run now store).1.isOk = false) :
    ((polled id polledAt).run now store).2 = store := by
  cases hmark : Store.markPolled store id polledAt with
  | ok next =>
      simp only [StoreUpdate.run, hmark, settleWrite] at hrefused
      cases hrefused
  | error error => simp only [StoreUpdate.run, hmark, settleWrite]

/-! ### The store in memory -/

namespace MemoryStore

theorem mem_dueAmong {now : Instant} {devices due : List Device}
    (hdue : dueAmong now devices = some due) {device : Device} (hmem : device ∈ due) :
    device ∈ devices ∧ device.isDue now = some true := by
  induction devices generalizing due with
  | nil =>
      cases hdue
      cases hmem
  | cons first rest ih =>
      simp only [dueAmong, Option.bind_eq_bind, Option.bind_eq_some_iff] at hdue
      obtain ⟨isDue, hfirst, others, hothers, hsome⟩ := hdue
      cases hsome
      have hrest (hmem : device ∈ others) : device ∈ first :: rest ∧ device.isDue now = some true :=
        ⟨List.mem_cons_of_mem _ (ih hothers hmem).1, (ih hothers hmem).2⟩
      cases isDue with
      | false => exact hrest hmem
      | true =>
          rcases List.mem_cons.1 hmem with rfl | hmem
          · exact ⟨List.mem_cons_self, hfirst⟩
          · exact hrest hmem

theorem sublist_of_dueAmong {now : Instant} {devices due : List Device}
    (hdue : dueAmong now devices = some due) : due.Sublist devices := by
  induction devices generalizing due with
  | nil =>
      cases hdue
      exact List.Sublist.refl _
  | cons first rest ih =>
      simp only [dueAmong, Option.bind_eq_bind, Option.bind_eq_some_iff] at hdue
      obtain ⟨isDue, _, others, hothers, hsome⟩ := hdue
      cases hsome
      cases isDue with
      | false => exact (ih hothers).cons _
      | true => exact (ih hothers).cons_cons _

/-- The devices in a store that can be reached have the keys of the table as their ids. -/
theorem IsReached.map_id {store : MemoryStore} (hreached : store.IsReached) :
    (store.devices.values.map (·.device)).map (·.id) = store.devices.entries.map (·.1) := by
  rw [Table.values, List.map_map, List.map_map]
  refine List.map_congr_left ?_
  rintro ⟨key, entry⟩ hmem
  exact hreached.id_eq (Table.get?_of_mem hreached.isKeyed hmem)

theorem device?_eq (store : MemoryStore) (clock : Instant) (id : Uuid) :
    Store.readDevice? store clock id = .ok ((store.view id).entry.map (·.device)) := rfl

instance : LawfulStore MemoryStore where
  IsSound := IsReached
  kept _ := id
  isSound_run now update _ hsound := hsound.updated now update
  due_of_listed {store _ now limit devices device} hsound _ hlisted hmem _ := by
    change store.listDue now limit = .listed devices at hlisted
    unfold listDue at hlisted
    split at hlisted
    · rename_i due hdue
      cases hlisted
      have hin := List.mem_mergeSort.1 (List.mem_of_mem_take hmem)
      obtain ⟨hvalue, hisDue⟩ := mem_dueAmong hdue hin
      obtain ⟨entry, hentry, rfl⟩ := List.mem_map.1 hvalue
      obtain ⟨⟨key, _⟩, hrow, rfl⟩ := List.mem_map.1 hentry
      have hget := Table.get?_of_mem hsound.isKeyed hrow
      refine ⟨_, ?_, hisDue⟩
      rw [hsound.id_eq hget, device?_eq]
      show Except.ok ((store.devices.get? key).map _) = _
      rw [hget]
      rfl
    · cases hlisted
  nodup_of_listed {store _ now limit devices} hsound hlisted := by
    change store.listDue now limit = .listed devices at hlisted
    unfold listDue at hlisted
    split at hlisted
    · rename_i due hdue
      cases hlisted
      have hids : (due.map (·.id)).Nodup := by
        have hkeys := hsound.isKeyed
        unfold Table.IsKeyed at hkeys
        rw [← hsound.map_id] at hkeys
        exact hkeys.sublist ((sublist_of_dueAmong hdue).map _)
      have hsorted := ((List.mergeSort_perm due Device.notAfter).map (·.id)).nodup_iff.2 hids
      exact hsorted.sublist ((List.take_sublist _ _).map _)
    · cases hlisted
  device?_of_other {store _ now update id stored} _ hother hstored := by
    rw [device?_eq, view_run]
    split
    · rename_i hsame
      rw [device?_eq] at hstored
      cases update with
      | polled deviceId polledAt => exact absurd (by rw [← hsame]; rfl) (hother polledAt)
      | failure deviceId =>
          rw [← hstored]
          show Except.ok (((store.view id).entry.map (·.failed)).map (·.device)) = _
          rw [Option.map_map]
          rfl
      | _ => exact hstored
    · exact hstored
  device?_of_polled {store _ now polledAt id stored} _ _ hstored := by
    have hsame : (StoreUpdate.polled id polledAt).deviceId = id := rfl
    rw [device?_eq] at hstored
    rw [device?_eq, view_run, if_pos hsame]
    obtain ⟨entry, hentry, rfl⟩ := Option.map_eq_some_iff.1 (Except.ok.inj hstored)
    show Except.ok (((store.view id).entry.map (·.polled polledAt)).map (·.device)) = _
    rw [hentry]
    rfl

end MemoryStore

end RouterPoll
