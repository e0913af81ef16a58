import RouterPoll.Proofs.Store.Replay
import RouterPoll.Proofs.Store.Written

/-!
# What moves a device in the due list

A due list is in the order of the last polls, and all that moves a device in it is a mark. A device that is marked with a time from which on another one was due comes behind that one. A device that is not marked keeps its place, and as time passes it stays due.

That takes a store in which every mark of a known device counts, and which keeps times in their order.
-/

namespace RouterPoll

/-! ### Places in a due list -/

theorem Instant.le_of_addSeconds {instant later : Instant} {count : Nat}
    (hlater : instant.addSeconds count = some later) : instant ≤ later := by
  unfold addSeconds at hlater
  split at hlater
  · cases hlater
    exact le_refl _
  · rename_i hcount
    simp only at hlater
    split at hlater
    · cases hlater
      rw [beq_iff_eq] at hcount
      rw [le_iff, not_before_iff]
      simp only
      omega
    · cases hlater

/-- What is due at a time comes before what was polled since. -/
theorem Device.place_lt_of_isDue {device other : Device} {now last : Instant}
    (hdue : device.isDue now = some true) (hlast : other.lastPolledAt = some last) (hle : now ≤ last) :
    device.place < other.place := by
  rw [place, place, Prod.Lex.toLex_lt_toLex, hlast]
  left
  obtain ⟨_, _, hpassed⟩ := isDue_iff.1 hdue
  cases hearlier : device.lastPolledAt with
  | none => exact WithBot.bot_lt_coe _
  | some earlier =>
      obtain ⟨next, hnext, hbefore⟩ := hpassed earlier hearlier
      have hpast : earlier.before now = true := by
        have hstart := Instant.le_of_addSeconds hnext
        rw [Instant.le_iff, Instant.not_before_iff] at hstart
        rw [Instant.before_iff] at hbefore ⊢
        omega
      exact WithBot.coe_lt_coe.2
        (Instant.place_lt_iff.2 (Instant.before_of_before_of_not_before hpast hle))

section

variable {σ : Type} [Store σ] {store : σ} {now : Instant} {due front : List Device} {device other : Device}

/-- What comes before a device in the front of a due list is in the front as well. -/
theorem IsDueList.mem_front (hdue : IsDueList store now due) (hfront : front <+: due) (hother : other ∈ front)
    (hdevice : device ∈ due) (hlt : device.place < other.place) : device ∈ front := by
  obtain ⟨rest, rfl⟩ := hfront
  refine (List.mem_append.1 hdevice).resolve_right fun hrest => ?_
  have hle := (List.pairwise_append.1 hdue.sorted).2.2 other hother device hrest
  rw [Device.notAfter_eq_place, decide_eq_true_iff] at hle
  exact absurd hlt (not_lt_of_ge hle)

theorem IsDueList.place_lt (hdue : IsDueList store now due) (hfront : front <+: due) (hdevice : device ∈ front)
    (hother : other ∈ due) (hbehind : other ∉ front) : device.place < other.place := by
  have hstored := ((hdue.mem_iff device).1 (hfront.subset hdevice)).1 now
  have hother' := ((hdue.mem_iff other).1 hother).1 now
  refine lt_of_not_ge fun hle => hbehind ?_
  rcases lt_or_eq_of_le hle with hlt | heq
  · exact hdue.mem_front hfront hdevice hother hlt
  · rw [Device.id_eq_of_place_eq heq, hstored] at hother'
    cases hother'
    exact hdevice

end

/-! ### Stores that keep marks in order -/

/-- An update that notes an ordinary time for the last poll of a device, if it notes one. -/
def StoreUpdate.IsTimed : StoreUpdate → Prop
  | polled _ polledAt => polledAt.IsOrdinary
  | _ => True

/-- A store in which every mark of a known device counts, and which keeps times in their order. -/
class OrderlyStore (σ : Type) [Store σ] [LawfulStore σ] [ListingStore σ] : Prop where
  isSound_of_isKept {store : σ} (hkept : ListingStore.IsKept store) : LawfulStore.IsSound store
  isKept_run {store : σ} (now : Instant) {update : StoreUpdate} (htimed : update.IsTimed)
    (hkept : ListingStore.IsKept store) : ListingStore.IsKept (update.run now store).2
  isOk_mark {store : σ} {clock : Instant} {id : Uuid} {stored : Device} (now polledAt : Instant)
    (hstored : Store.readDevice? store clock id = .ok (some stored)) :
    ((StoreUpdate.polled id polledAt).run now store).1.isOk = true
  keptIn_eq {instant : Instant} (hordinary : instant.IsOrdinary) (clock : Instant) :
    instant.keptIn σ clock = ListingStore.kept σ instant
  kept_mono {first second : Instant} (hfirst : first.IsOrdinary) (hsecond : second.IsOrdinary)
    (hle : first ≤ second) : ListingStore.kept σ first ≤ ListingStore.kept σ second

section

variable {σ : Type} [Store σ] [LawfulStore σ] [ListingStore σ] [OrderlyStore σ] {store : σ} {clock : Instant}
  {id : Uuid} {stored : Device}

theorem isKept_replay {writes : List (Instant × StoreUpdate)} (htimed : ∀ write ∈ writes, write.2.IsTimed)
    (hkept : ListingStore.IsKept store) : ListingStore.IsKept (replay store writes) := by
  induction writes generalizing store with
  | nil => exact hkept
  | cons write writes ih =>
      exact ih (fun other hmem => htimed other (List.mem_cons_of_mem _ hmem))
        (OrderlyStore.isKept_run _ (htimed write List.mem_cons_self) hkept)

theorem device?_run (hkept : ListingStore.IsKept store) (now : Instant) {update : StoreUpdate}
    (htimed : update.IsTimed) (hstored : Store.readDevice? store clock id = .ok (some stored)) :
    Store.readDevice? (update.run now store).2 clock id = .ok (some
      (match update.mark? id with
      | some polledAt => { stored with lastPolledAt := some (ListingStore.kept σ polledAt) }
      | none => stored)) := by
  have hsound := OrderlyStore.isSound_of_isKept hkept
  cases update with
  | polled deviceId polledAt =>
      by_cases hid : deviceId = id
      · subst hid
        have hkeptIn : polledAt.keptIn σ clock = ListingStore.kept σ polledAt := OrderlyStore.keptIn_eq htimed clock
        rw [StoreUpdate.mark?, if_pos rfl]
        show _ = Except.ok (some { stored with lastPolledAt := some (ListingStore.kept σ polledAt) })
        rw [← hkeptIn]
        exact LawfulStore.device?_of_polled hsound (OrderlyStore.isOk_mark now polledAt hstored) hstored
      · rw [StoreUpdate.mark?, if_neg hid]
        refine LawfulStore.device?_of_other hsound (fun other hsame => ?_) hstored
        cases hsame
        exact hid rfl
  | _ => exact LawfulStore.device?_of_other hsound (fun _ hsame => by cases hsame) hstored

/-- After some writes a known device is as it was, or was last polled at the time of one of its marks. -/
theorem device?_replay {writes : List (Instant × StoreUpdate)} (htimed : ∀ write ∈ writes, write.2.IsTimed)
    (hkept : ListingStore.IsKept store) (hstored : Store.readDevice? store clock id = .ok (some stored)) :
    (∀ write ∈ writes, write.2.mark? id = none) ∧ Store.readDevice? (replay store writes) clock id = .ok (some stored)
      ∨ ∃ polledAt, (∃ write ∈ writes, write.2.mark? id = some polledAt)
        ∧ Store.readDevice? (replay store writes) clock id
          = .ok (some { stored with lastPolledAt := some (ListingStore.kept σ polledAt) }) := by
  induction writes generalizing store stored with
  | nil => exact .inl ⟨fun _ hmem => (by cases hmem), hstored⟩
  | cons write writes ih =>
      have hfirst := device?_run hkept write.1 (htimed write List.mem_cons_self) hstored
      have hrest := ih (fun other hmem => htimed other (List.mem_cons_of_mem _ hmem))
        (OrderlyStore.isKept_run write.1 (htimed write List.mem_cons_self) hkept) hfirst
      rcases hrest with ⟨hunmarked, hsame⟩ | ⟨polledAt, ⟨other, hmem, hother⟩, hpolled⟩
      · cases hmark : write.2.mark? id with
        | none =>
            rw [hmark] at hsame
            exact .inl ⟨List.forall_mem_cons.2 ⟨hmark, hunmarked⟩, hsame⟩
        | some polledAt =>
            rw [hmark] at hsame
            exact .inr ⟨polledAt, ⟨write, List.mem_cons_self, hmark⟩, hsame⟩
      · refine .inr ⟨polledAt, ⟨other, List.mem_cons_of_mem _ hmem, hother⟩, hpolled.trans ?_⟩
        cases write.2.mark? id <;> rfl

end

/-! ### Both stores -/

instance : OrderlyStore MemoryStore where
  isSound_of_isKept hkept := hkept
  isKept_run now update _ hkept := hkept.updated now update
  isOk_mark {store _ id stored} now polledAt hstored := by
    obtain ⟨entry, hentry, _⟩ := Option.map_eq_some_iff.1 (Except.ok.inj hstored)
    have hget : store.devices.get? id = some entry := hentry
    have hknown : store.entry id = .ok entry := by rw [MemoryStore.entry, hget]
    simp only [StoreUpdate.run, Store.markPolled, MemoryStore.markPolled, MemoryStore.modify, hknown]
    rfl
  keptIn_eq _ _ := rfl
  kept_mono _ _ hle := hle

instance : OrderlyStore Database where
  isSound_of_isKept hkept := hkept.isSound
  isKept_run now update htimed hkept := hkept.run now (by
    cases update with
    | polled id polledAt => exact Column.isReadable_toMillis htimed
    | _ => exact trivial)
  isOk_mark {store _ id stored} now polledAt hstored := by
    obtain ⟨row, hrow, _⟩ := Database.exists_row hstored
    simp only [StoreUpdate.run, Store.markPolled, Database.markPolled, Database.modify, hrow]
    rfl
  keptIn_eq hordinary _ := Column.toInstant_toMillis hordinary
  kept_mono {first second} _ _ hle := by
    show first.cut ≤ second.cut
    rw [Instant.le_iff, Instant.not_before_iff] at hle ⊢
    unfold Instant.cut
    dsimp only
    omega

end RouterPoll
