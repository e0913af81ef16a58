import Mathlib.Algebra.Order.Group.Nat
import Mathlib.Data.Int.ConditionallyCompleteOrder
import Mathlib.Data.List.Nodup
import Mathlib.Data.List.Sort
import Mathlib.Data.Prod.Lex
import Mathlib.Order.ConditionallyCompleteLattice.Basic
import Mathlib.Order.WithBot
import RouterPoll.Pipeline.Loader
import RouterPoll.Proofs.Net.Uuid
import RouterPoll.Proofs.Store.Lawful

/-!
# The due list

All devices of a store that are due at some time, each once and in the order of listings, are its due list. There is one at most, because the order is total: two devices that stand at the same place have the same id. What a store lists under a limit is the front of its due list. A store may round times, so the due list is that of the time as the store keeps it.
-/

namespace RouterPoll

/-- Sorting by keys of a total order leaves no pair in the wrong order. -/
theorem pairwise_mergeSort_of_key {α β : Type} [LinearOrder β] {notAfter : α → α → Bool}
    {items : List α} (key : α → β)
    (hkey : ∀ left ∈ items, ∀ right ∈ items, notAfter left right = decide (key left ≤ key right)) :
    (items.mergeSort notAfter).Pairwise fun left right => notAfter left right = true := by
  have hmap : (items.mergeSort notAfter).map key
      = (items.map key).mergeSort fun left right => decide (left ≤ right) := List.map_mergeSort hkey
  have hkeys : ((items.mergeSort notAfter).map key).Pairwise
      fun left right => decide (left ≤ right) = true := by
    rw [hmap]
    refine List.pairwise_mergeSort ?_ ?_ _
    · intro first second third hfirst hsecond
      exact decide_eq_true (le_trans (of_decide_eq_true hfirst) (of_decide_eq_true hsecond))
    · intro left right
      rw [Bool.or_eq_true, decide_eq_true_iff, decide_eq_true_iff]
      exact le_total left right
  refine (List.pairwise_map.1 hkeys).imp_of_mem ?_
  intro left right hleft hright hle
  rw [hkey left (List.mem_mergeSort.1 hleft) right (List.mem_mergeSort.1 hright)]
  exact hle

/-- Merging and inserting sort alike, also when the order is not antisymmetric: neither moves what may stand in either order. -/
theorem mergeSort_eq_insertionSort {α : Type} {notAfter : α → α → Bool}
    (htrans : ∀ first second third, notAfter first second = true → notAfter second third = true →
      notAfter first third = true)
    (htotal : ∀ left right, (notAfter left right || notAfter right left) = true) (items : List α) :
    items.mergeSort notAfter = items.insertionSort fun left right => notAfter left right = true := by
  induction items with
  | nil => rw [List.mergeSort_nil, List.insertionSort_nil]
  | cons item items ih =>
      obtain ⟨front, back, hall, hitems, hfront⟩ := List.mergeSort_cons htrans htotal item items
      have hsorted := List.pairwise_mergeSort htrans htotal (item :: items)
      rw [hall, List.pairwise_append, List.pairwise_cons] at hsorted
      have hback := hsorted.2.1.1
      have hbefore : ∀ other ∈ front, decide ¬notAfter item other = true := by
        intro other hmem
        simpa using hfront other hmem
      rw [List.insertionSort_cons, ← ih, hitems, hall, List.orderedInsert_eq_take_drop,
        List.takeWhile_append_of_pos hbefore, List.dropWhile_append_of_pos hbefore]
      cases back with
      | nil => simp
      | cons next back => simp [hback next List.mem_cons_self]

/-! ### The order of listings -/

/-- The place of an instant: by its second, and then by its fraction. -/
def Instant.place (instant : Instant) : ℤ ×ₗ ℕ := toLex (instant.seconds, instant.nanos)

theorem Instant.place_lt_iff {left right : Instant} :
    left.place < right.place ↔ left.before right = true := by
  rw [before_iff]
  exact Prod.Lex.toLex_lt_toLex

theorem Instant.place_inj {left right : Instant} : left.place = right.place ↔ left = right := by
  obtain ⟨seconds, nanos⟩ := left
  obtain ⟨seconds', nanos'⟩ := right
  simp [place]

/-- The place of a last poll; one that never was comes first. -/
def Instant.placeOf : Option Instant → WithBot (ℤ ×ₗ ℕ)
  | none => ⊥
  | some last => last.place

namespace Device

/-- The place of a device in a listing: by its last poll, and then by its id. -/
def place (device : Device) : WithBot (ℤ ×ₗ ℕ) ×ₗ ℕ :=
  toLex (Instant.placeOf device.lastPolledAt, device.id.value.toNat)

theorem notAfter_eq_place (left right : Device) :
    left.notAfter right = decide (left.place ≤ right.place) := by
  rw [Bool.eq_iff_iff, decide_eq_true_iff, place, place, Prod.Lex.toLex_le_toLex]
  unfold notAfter Uuid.notAfter
  cases left.lastPolledAt with
  | none =>
      cases right.lastPolledAt with
      | none => simp [Instant.placeOf]
      | some second => simp [Instant.placeOf]
  | some first =>
      cases right.lastPolledAt with
      | none => simp [Instant.placeOf]
      | some second =>
          simp only [Instant.placeOf, WithBot.coe_lt_coe, WithBot.coe_inj, Instant.place_inj,
            Instant.place_lt_iff, beq_iff_eq]
          by_cases hsame : first = second
          · simp [hsame]
          · simp [hsame]

theorem id_eq_of_place_eq {left right : Device} (hplace : left.place = right.place) :
    left.id = right.id := by
  have hnumber : left.id.value.toNat = right.id.value.toNat :=
    congrArg (fun place => (ofLex place).2) hplace
  exact Uuid.toNat_inj.1 hnumber

theorem notAfter_trans (first second third : Device) (hfirst : first.notAfter second = true)
    (hsecond : second.notAfter third = true) : first.notAfter third = true := by
  rw [notAfter_eq_place, decide_eq_true_iff] at hfirst hsecond ⊢
  exact le_trans hfirst hsecond

theorem notAfter_total (left right : Device) : (left.notAfter right || right.notAfter left) = true := by
  rw [notAfter_eq_place, notAfter_eq_place, Bool.or_eq_true, decide_eq_true_iff, decide_eq_true_iff]
  exact le_total _ _

end Device

/-! ### Listings that can be evaluated -/

namespace MemoryStore

/-- A listing that is sorted by insertion. -/
def listDueByInsertion (store : MemoryStore) (now : Instant) (limit : Nat) : Listing :=
  match dueAmong now (store.devices.values.map (·.device)) with
  | some devices =>
    .listed ((devices.insertionSort fun left right => left.notAfter right = true).take limit)
  | none => .overflowed

theorem listDue_eq_listDueByInsertion (store : MemoryStore) : store.listDue = store.listDueByInsertion := by
  funext now limit
  unfold listDue listDueByInsertion
  cases dueAmong now (store.devices.values.map (·.device)) with
  | none => rfl
  | some devices =>
      show Listing.listed ((devices.mergeSort Device.notAfter).take limit) = _
      rw [mergeSort_eq_insertionSort Device.notAfter_trans Device.notAfter_total]

/-- The store in memory once more. The kernel can not evaluate a sort by merging; with this instance it evaluates a run that lists devices. -/
@[reducible]
def byInsertion : Store MemoryStore :=
  { instStoreMemoryStore with readDue := fun store _ => store.listDueByInsertion }

theorem eq_byInsertion : instStoreMemoryStore = byInsertion := by
  show { instStoreMemoryStore with readDue := fun store _ => store.listDue } = byInsertion
  simp only [listDue_eq_listDueByInsertion]

end MemoryStore

/-! ### Due lists -/

/-- All devices of a store that are due, each once and in the order of listings. What the store says of them does not hang on the clock. -/
structure IsDueList {σ : Type} [Store σ] (store : σ) (now : Instant) (due : List Device) : Prop where
  nodup : (due.map (·.id)).Nodup
  sorted : due.Pairwise fun left right => left.notAfter right = true
  mem_iff : ∀ device, device ∈ due
    ↔ (∀ clock, Store.readDevice? store clock device.id = .ok (some device)) ∧ device.isDue now = some true

theorem IsDueList.unique {σ : Type} [Store σ] {store : σ} {now : Instant} {due other : List Device}
    (hdue : IsDueList store now due) (hother : IsDueList store now other) : due = other := by
  refine List.Perm.eq_of_pairwise ?_ hdue.sorted hother.sorted ?_
  · intro left right hleft hright hle hge
    rw [Device.notAfter_eq_place, decide_eq_true_iff] at hle hge
    have hid := Device.id_eq_of_place_eq (le_antisymm hle hge)
    have hstored := ((hdue.mem_iff left).1 hleft).1 now
    rw [hid, ((hother.mem_iff right).1 hright).1 now] at hstored
    cases hstored
    rfl
  · refine (List.perm_ext_iff_of_nodup (List.Nodup.of_map _ hdue.nodup)
      (List.Nodup.of_map _ hother.nodup)).2 fun device => ?_
    rw [hdue.mem_iff, hother.mem_iff]

theorem IsDueList.congr {σ τ : Type} [Store σ] [Store τ] {store : σ} {other : τ} {now : Instant}
    {due : List Device} (hdue : IsDueList store now due)
    (hsame : ∀ clock id, Store.readDevice? store clock id = Store.readDevice? other clock id) :
    IsDueList other now due where
  nodup := hdue.nodup
  sorted := hdue.sorted
  mem_iff device := by simp only [← hsame, hdue.mem_iff]

/-- A store that lists the front of its due list, as long as it is well kept. Its updates leave capabilities and roles alone. -/
class ListingStore (σ : Type) [Store σ] where
  IsKept : σ → Prop
  /-- An ordinary time as the store keeps it. -/
  kept : Instant → Instant
  readDevice?_eq {store : σ} (hkept : IsKept store) (clock other : Instant) (id : Uuid) :
    Store.readDevice? store clock id = Store.readDevice? store other id
  exists_due {store : σ} {clock : Nat → Instant} {now : Instant} {limit : Nat} {devices : List Device}
    (hkept : IsKept store) (hnow : now.IsOrdinary)
    (hlisted : Store.readDue store clock now limit = .listed devices) :
    ∃ due, IsDueList store (kept now) due ∧ devices = due.take limit
  capabilities?_run (store : σ) (now : Instant) (update : StoreUpdate) (id : Uuid) :
    Store.capabilities? (update.run now store).2 id = Store.capabilities? store id
  roles_run (store : σ) (now : Instant) (update : StoreUpdate) (id : Uuid) :
    Store.roles (update.run now store).2 id = Store.roles store id

theorem Device.loaded_run {σ : Type} [Store σ] [ListingStore σ] (device : Device) (store : σ)
    (now : Instant) (update : StoreUpdate) :
    device.loaded (update.run now store).2 = device.loaded store := by
  unfold loaded withRoles withCapabilities
  rw [ListingStore.capabilities?_run]
  simp only [ListingStore.roles_run]

/-! ### The store in memory -/

namespace MemoryStore

theorem dueAmong_eq (now : Instant) (devices : List Device) :
    dueAmong now devices = if devices.all fun device => (device.isDue now).isSome then
        some (devices.filter fun device => device.isDue now == some true)
      else none := by
  induction devices with
  | nil => rfl
  | cons device rest ih =>
      rw [dueAmong, ih, List.all_cons]
      cases hdevice : device.isDue now with
      | none => simp
      | some isDue =>
          rw [Option.isSome_some, Bool.true_and]
          split
          · cases isDue with
            | false => simp [hdevice]
            | true => simp [hdevice]
          · rfl

theorem listDue_eq {store : MemoryStore} {now : Instant} {limit : Nat} {devices : List Device}
    (hlisted : store.listDue now limit = .listed devices) :
    devices = (((store.devices.values.map (·.device)).filter
      fun device => device.isDue now == some true).mergeSort Device.notAfter).take limit := by
  rw [listDue, dueAmong_eq] at hlisted
  split at hlisted
  · rename_i due hdue
    split at hdue
    · cases hdue
      cases hlisted
      rfl
    · cases hdue
  · cases hlisted

theorem IsReached.mem_devices_iff {store : MemoryStore} (hreached : store.IsReached) (clock : Instant)
    (device : Device) : device ∈ store.devices.values.map (·.device)
      ↔ Store.readDevice? store clock device.id = .ok (some device) := by
  rw [device?_eq]
  constructor
  · intro hmem
    obtain ⟨entry, hentry, rfl⟩ := List.mem_map.1 hmem
    obtain ⟨⟨key, _⟩, hrow, rfl⟩ := List.mem_map.1 hentry
    have hget := Table.get?_of_mem hreached.isKeyed hrow
    rw [hreached.id_eq hget]
    show Except.ok ((store.devices.get? key).map _) = _
    rw [hget]
    rfl
  · intro hstored
    obtain ⟨entry, hentry, rfl⟩ := Option.map_eq_some_iff.1 (Except.ok.inj hstored)
    exact List.mem_map_of_mem (Table.mem_values_of_get? hentry)

theorem isDueList {store : MemoryStore} (hreached : store.IsReached) (now : Instant) :
    IsDueList store now (((store.devices.values.map (·.device)).filter
      fun device => device.isDue now == some true).mergeSort Device.notAfter) where
  nodup := by
    have hids : ((store.devices.values.map (·.device)).map (·.id)).Nodup := by
      rw [hreached.map_id]
      exact hreached.isKeyed
    exact ((List.mergeSort_perm _ _).map _).nodup_iff.2 (hids.sublist (List.filter_sublist.map _))
  sorted := pairwise_mergeSort_of_key Device.place fun left _ right _ => left.notAfter_eq_place right
  mem_iff device := by
    rw [List.mem_mergeSort, List.mem_filter, hreached.mem_devices_iff now, beq_iff_eq]
    exact and_congr_left fun _ => ⟨fun hstored _ => hstored, fun hstored => hstored now⟩

/-- What neither a mark nor a failure changes in an entry stays through every update. -/
theorem map_entry_run {α : Type} {store : MemoryStore} {read : MemoryEntry → α} (now : Instant)
    (update : StoreUpdate) (id : Uuid)
    (hpolled : ∀ (entry : MemoryEntry) polledAt, read (entry.polled polledAt) = read entry)
    (hfailed : ∀ entry : MemoryEntry, read entry.failed = read entry) :
    ((update.run now store).2.entry id).map read = (store.entry id).map read := by
  have hview : ((update.run now store).2.view id).entry.map read = (store.view id).entry.map read := by
    rw [view_run]
    split
    · cases update with
      | polled deviceId polledAt =>
          show ((store.view id).entry.map (·.polled polledAt)).map read = _
          rw [Option.map_map]
          exact congrArg (Option.map · _) (funext fun entry => hpolled entry polledAt)
      | failure deviceId =>
          show ((store.view id).entry.map (·.failed)).map read = _
          rw [Option.map_map]
          exact congrArg (Option.map · _) (funext hfailed)
      | _ => rfl
    · rfl
  change ((update.run now store).2.devices.get? id).map read = (store.devices.get? id).map read at hview
  unfold entry
  cases hbefore : store.devices.get? id with
  | none =>
      rw [hbefore, Option.map_none, Option.map_eq_none_iff] at hview
      rw [hview]
  | some entry =>
      rw [hbefore] at hview
      obtain ⟨after, hafter, hsame⟩ := Option.map_eq_some_iff.1 hview
      rw [hafter]
      exact congrArg Except.ok hsame

instance : ListingStore MemoryStore where
  IsKept := IsReached
  kept := id
  readDevice?_eq _ _ _ _ := rfl
  exists_due hreached _ hlisted := ⟨_, isDueList hreached _, listDue_eq hlisted⟩
  capabilities?_run store now update id := by
    show ((update.run now store).2.entry id).map (·.capabilities) = (store.entry id).map _
    exact map_entry_run now update id (fun _ _ => rfl) fun _ => rfl
  roles_run store now update id := by
    show ((update.run now store).2.entry id).map (fun entry => Role.byPriority entry.roles)
      = (store.entry id).map _
    exact map_entry_run now update id (fun _ _ => rfl) fun _ => rfl

end MemoryStore

end RouterPoll
