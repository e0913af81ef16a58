import Mathlib.Data.List.Perm.Subperm
import RouterPoll.Proofs.Pipeline.Effect
import RouterPoll.Proofs.Store.Listing

/-!
# What a pass admits

A pass asks for as many devices as it may admit and as are in flight together. Of the devices it is listed at most those in flight are passed over, so what is left are the first admissible ones of the whole due list, as many as the pass may admit. It admits them in that order until the budget or the room in the queue is used up, and nothing else is changed.
-/

namespace RouterPoll

def InFlight.fresh (inFlight : InFlight) (devices : List Device) : List Device :=
  devices.filter fun device => !inFlight.contains device.id

namespace InFlight

variable {inFlight : InFlight} {device : Device} {devices : List Device}

theorem fresh_cons_of_mem (hmem : inFlight.contains device.id = true) :
    inFlight.fresh (device :: devices) = inFlight.fresh devices :=
  List.filter_cons_of_neg (by rw [hmem]; exact Bool.false_ne_true)

theorem fresh_cons_of_not_mem (hfresh : inFlight.contains device.id = false) :
    inFlight.fresh (device :: devices) = device :: inFlight.fresh devices :=
  List.filter_cons_of_pos (by rw [hfresh]; rfl)

theorem fresh_append {id : Uuid} (hother : id ∉ devices.map (·.id)) :
    InFlight.fresh ⟨inFlight.ids ++ [id]⟩ devices = inFlight.fresh devices := by
  refine List.filter_congr ?_
  intro device hmem
  have hne : device.id ≠ id := fun hsame => hother (hsame ▸ List.mem_map_of_mem hmem)
  simp [contains, hne]

theorem release_append {id : Uuid} (hfree : id ∉ inFlight.ids) :
    InFlight.release ⟨inFlight.ids ++ [id]⟩ id = inFlight := by
  rw [release, List.erase_append_right _ hfree]
  simp

/-- Of devices that are listed once, no more are passed over than are in flight. -/
theorem length_le_of_nodup (hnodup : (devices.map (·.id)).Nodup) :
    (devices.filter fun device => inFlight.contains device.id).length ≤ inFlight.size := by
  have hids := hnodup.sublist
    ((List.filter_sublist : (devices.filter fun device => inFlight.contains device.id).Sublist _).map
      fun device => device.id)
  have hsubset : ((devices.filter fun device => inFlight.contains device.id).map (·.id))
      ⊆ inFlight.ids := by
    intro id hmem
    obtain ⟨device, hdevice, rfl⟩ := List.mem_map.1 hmem
    simpa [contains] using (List.mem_filter.1 hdevice).2
  have hlength := (List.subperm_of_subset hids hsubset).length_le
  rwa [List.length_map] at hlength

/-- The devices that can be admitted of some listed ones: the first ones that are in flight neither before nor by then, at most `count` of them. -/
def chosen (inFlight : InFlight) : List Device → (count : Nat) → List Device
  | [], _ => []
  | _, 0 => []
  | device :: rest, count + 1 =>
    match inFlight.claim? device.id with
    | none => chosen inFlight rest (count + 1)
    | some inFlight => device :: chosen inFlight rest count

theorem chosen_zero (devices : List Device) : inFlight.chosen devices 0 = [] := by
  cases devices <;> rfl

theorem chosen_of_claimed {count : Nat} (hclaim : inFlight.claim? device.id = none) :
    inFlight.chosen (device :: devices) count = inFlight.chosen devices count := by
  cases count with
  | zero => rw [chosen_zero, chosen_zero]
  | succ count => rw [chosen, hclaim]

theorem chosen_of_free {count : Nat} {next : InFlight} (hclaim : inFlight.claim? device.id = some next) :
    inFlight.chosen (device :: devices) (count + 1) = device :: next.chosen devices count := by
  rw [chosen, hclaim]

theorem nodup_chosen (inFlight : InFlight) (devices : List Device) (count : Nat) :
    ((inFlight.chosen devices count).map (·.id)).Nodup
      ∧ ∀ device ∈ inFlight.chosen devices count, device.id ∉ inFlight.ids := by
  induction devices generalizing inFlight count with
  | nil => exact ⟨List.nodup_nil, fun device hmem => by cases hmem⟩
  | cons device rest ih =>
      cases count with
      | zero => exact ⟨List.nodup_nil, fun device hmem => by cases hmem⟩
      | succ count =>
          cases hclaim : inFlight.claim? device.id with
          | none =>
              rw [chosen_of_claimed hclaim]
              exact ih inFlight (count + 1)
          | some next =>
              obtain ⟨hfree, hids⟩ := claim?_eq_some hclaim
              obtain ⟨hnodup, hfresh⟩ := ih next count
              rw [chosen_of_free hclaim]
              simp only [hids, List.mem_append, List.mem_singleton, not_or] at hfresh
              refine ⟨List.nodup_cons.2 ⟨fun hmem => ?_, hnodup⟩, fun other hmem => ?_⟩
              · obtain ⟨other, hother, hsame⟩ := List.mem_map.1 hmem
                exact (hfresh other hother).2 hsame
              · rcases List.mem_cons.1 hmem with rfl | hmem
                · exact hfree
                · exact (hfresh other hmem).1

/-- Of devices that are listed once the first fresh ones are chosen. -/
theorem chosen_eq_take {devices : List Device} (hnodup : (devices.map (·.id)).Nodup) (inFlight : InFlight)
    (count : Nat) : inFlight.chosen devices count = (inFlight.fresh devices).take count := by
  induction devices generalizing inFlight count with
  | nil => exact List.take_nil.symm
  | cons device rest ih =>
      obtain ⟨hother, hrest⟩ := List.nodup_cons.1 hnodup
      cases hfresh : inFlight.contains device.id with
      | true =>
          rw [chosen_of_claimed (if_pos hfresh), ih hrest, fresh_cons_of_mem hfresh]
      | false =>
          cases count with
          | zero => rw [chosen_zero, List.take_zero]
          | succ count =>
              rw [chosen_of_free (if_neg (by rw [hfresh]; exact Bool.false_ne_true)), ih hrest,
                fresh_append hother, fresh_cons_of_not_mem hfresh, List.take_succ_cons]

end InFlight

/-- A front that is longer by as many items as are passed over has the same first admissible ones as the whole list. -/
theorem take_filter_take {α : Type} {admissible : α → Bool} {passed : Nat} (count : Nat) {items : List α}
    (hpassed : (items.filter fun item => !admissible item).length ≤ passed) :
    ((items.take (count + passed)).filter admissible).take count
      = (items.filter admissible).take count := by
  induction items generalizing count passed with
  | nil => rw [List.take_nil]
  | cons item items ih =>
      cases hitem : admissible item with
      | true =>
          rw [List.filter_cons_of_neg (by rw [hitem]; exact Bool.false_ne_true)] at hpassed
          cases count with
          | zero => rfl
          | succ count =>
              rw [Nat.succ_add, List.take_succ_cons, List.filter_cons_of_pos hitem,
                List.filter_cons_of_pos hitem, List.take_succ_cons, List.take_succ_cons, ih count hpassed]
      | false =>
          rw [List.filter_cons_of_pos (by rw [hitem]; rfl), List.length_cons] at hpassed
          obtain ⟨passed, rfl⟩ := Nat.exists_eq_succ_of_ne_zero (show passed ≠ 0 by omega)
          have hskip : ¬ admissible item = true := by rw [hitem]; exact Bool.false_ne_true
          rw [Nat.add_succ, List.take_succ_cons, List.filter_cons_of_neg hskip,
            List.filter_cons_of_neg hskip, ih count (by omega)]

namespace Admission

variable {σ : Type} [Store σ] {store : σ} {admission : Admission}

def admitting (admission : Admission) (store : σ) (devices : List Device) : Admission where
  inFlight := ⟨admission.inFlight.ids ++ devices.map (·.id)⟩
  queue := { admission.queue with
    items := admission.queue.items ++ devices.map (·.loaded store) }

theorem admitting_nil (store : σ) : admission.admitting store [] = admission := by
  unfold admitting
  simp

theorem admitting_admitting (store : σ) (devices more : List Device) :
    (admission.admitting store devices).admitting store more
      = admission.admitting store (devices ++ more) := by
  unfold admitting
  simp

def openRoom (admission : Admission) : Nat := if admission.queue.isOpen then admission.queue.room else 0

theorem openRoom_admitting (store : σ) (devices : List Device) :
    (admission.admitting store devices).openRoom = admission.openRoom - devices.length := by
  unfold openRoom admitting Queue.room
  split
  · simp only [List.length_append, List.length_map]
    omega
  · exact (Nat.zero_sub _).symm

theorem offer?_of_full {device : Device} (hfull : admission.openRoom = 0) : admission.queue.offer? device = none := by
  unfold openRoom at hfull
  unfold Queue.offer?
  split at hfull
  · simp [hfull]
  · rename_i hclosed
    simp [hclosed]

theorem offer?_of_room {device : Device} (hroom : 0 < admission.openRoom) :
    admission.queue.offer? device = some { admission.queue with items := admission.queue.items ++ [device] } := by
  unfold openRoom at hroom
  split at hroom
  · rename_i hopen
    simp [Queue.offer?, hopen, hroom]
  · cases hroom

theorem send_of_full {device : Device} (hfresh : device.id ∉ admission.inFlight.ids) (hfull : admission.openRoom = 0) :
    send { admission with inFlight := ⟨admission.inFlight.ids ++ [device.id]⟩ } (device.loaded store)
      = (false, admission) := by
  simp [send, offer?_of_full hfull, InFlight.release_append hfresh]

theorem send_of_room {device : Device} (hroom : 0 < admission.openRoom) :
    send { admission with inFlight := ⟨admission.inFlight.ids ++ [device.id]⟩ } (device.loaded store)
      = (true, admission.admitting store [device]) := by
  simp [send, offer?_of_room hroom, admitting]

theorem visit_eq_chosen (store : σ) (devices : List Device) (budget : Nat) (admission : Admission) :
    visit store devices budget admission
      = ((admission.inFlight.chosen devices (min budget admission.openRoom)).length,
        admission.admitting store (admission.inFlight.chosen devices (min budget admission.openRoom))) := by
  induction devices generalizing budget admission with
  | nil =>
      rw [InFlight.chosen, admitting_nil, visit]
      rfl
  | cons device rest ih =>
      cases budget with
      | zero =>
          rw [Nat.zero_min, InFlight.chosen_zero, admitting_nil]
          rfl
      | succ budget =>
          rw [visit]
          cases hclaim : admission.inFlight.claim? device.id with
          | none =>
              simp only
              rw [ih, InFlight.chosen_of_claimed hclaim]
          | some inFlight =>
              have hfree := (InFlight.claim?_eq_some hclaim).1
              obtain rfl := InFlight.eq_of_claim? hclaim
              simp only
              rcases Nat.eq_zero_or_pos admission.openRoom with hfull | hroom
              · rw [send_of_full hfree hfull, hfull, Nat.min_zero, InFlight.chosen_zero, admitting_nil]
                rfl
              · have hmin : min (budget + 1) admission.openRoom
                    = min budget (admission.admitting store [device]).openRoom + 1 := by
                  rw [openRoom_admitting, List.length_singleton]
                  omega
                rw [send_of_room hroom, hmin, InFlight.chosen_of_free hclaim]
                simp only
                rw [ih, admitting_admitting]
                rfl

/-- The first fresh ones of some devices, as many as a budget and the room in the queue allow. -/
def selected (admission : Admission) (budget : Nat) (devices : List Device) : List Device :=
  (admission.inFlight.fresh devices).take (min budget admission.queue.room)

/-- A visit admits the first fresh devices, as many as the budget and the room in the queue allow. -/
theorem visit_eq {devices : List Device} (hnodup : (devices.map (·.id)).Nodup)
    (hopen : admission.queue.isOpen = true) (budget : Nat) :
    visit store devices budget admission = ((admission.selected budget devices).length,
      admission.admitting store (admission.selected budget devices)) := by
  rw [visit_eq_chosen, InFlight.chosen_eq_take hnodup, openRoom, if_pos hopen]
  rfl

def admitted (admission : Admission) (limit : Nat) (due : List Device) : List Device :=
  admission.selected (budget limit admission.inFlight) due

theorem length_admitted (limit : Nat) (due : List Device) : (admission.admitted limit due).length
    = min (limit - admission.inFlight.size)
      (min admission.queue.room (admission.inFlight.fresh due).length) := by
  rw [admitted, selected, List.length_take, budget]
  omega

/-- The front that a pass asks for has the same admissible devices in it as the whole due list. -/
theorem admitted_take {due : List Device} (hnodup : (due.map (·.id)).Nodup) (limit : Nat) :
    admission.admitted limit (due.take (budget limit admission.inFlight + admission.inFlight.size))
      = admission.admitted limit due := by
  have hpassed : (due.filter fun device => !!admission.inFlight.contains device.id).length
      ≤ admission.inFlight.size := by
    simp only [Bool.not_not]
    exact InFlight.length_le_of_nodup hnodup
  have hfront := take_filter_take (budget limit admission.inFlight) hpassed
  unfold admitted selected InFlight.fresh
  rw [Nat.min_comm, ← List.take_take, ← List.take_take, hfront]

theorem pass_eq [ListingStore σ] {now : Instant} {limit : Nat} {devices : List Device}
    (hkept : ListingStore.IsKept store) (hnow : now.IsOrdinary) (hopen : admission.queue.isOpen = true)
    (hlisted : Store.readDue store (fun _ => now) now (budget limit admission.inFlight + admission.inFlight.size)
      = .listed devices) :
    ∃ due, IsDueList store (ListingStore.kept σ now) due
      ∧ pass store now limit admission = (.ok (.admitted (admission.admitted limit due).length),
        admission.admitting store (admission.admitted limit due)) := by
  obtain ⟨due, hdue, rfl⟩ := ListingStore.exists_due hkept hnow hlisted
  refine ⟨due, hdue, ?_⟩
  unfold pass
  simp only
  split
  · rename_i hnone
    rw [Bool.or_eq_true, beq_iff_eq, beq_iff_eq] at hnone
    have hmin : min (budget limit admission.inFlight) admission.queue.room = 0 := by omega
    rw [admitted, selected, hmin, List.take_zero, admitting_nil]
    rfl
  · have hnodup : ((due.take (budget limit admission.inFlight + admission.inFlight.size)).map
        (·.id)).Nodup := hdue.nodup.sublist ((List.take_sublist _ _).map _)
    rw [hlisted]
    simp only
    rw [visit_eq hnodup hopen]
    show ((.ok (.admitted (admission.admitted limit (due.take _)).length) : Reply),
      admission.admitting store (admission.admitted limit (due.take _))) = _
    rw [admitted_take hdue.nodup]

end Admission

end RouterPoll
