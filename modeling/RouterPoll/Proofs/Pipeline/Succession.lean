import RouterPoll.Proofs.Pipeline.Meanwhile

/-!
# Who comes first in the next pass

A pass that does not come to all due devices leaves some behind, and the next pass lists these where they were. Of the devices that the first pass admitted, those whose poll succeeded are marked with a time after that pass, and come behind all that it left. A device whose poll failed or was called off is not marked: it keeps the place that it had, before those left behind, and is admitted before them again.
-/

namespace RouterPoll

namespace Pipeline

variable {σ : Type} [Store σ]

section

variable [ListingStore σ] {settings : PollerSettings} {store : σ} {start : Instant}
  {first second last : Pipeline σ} {steps window more : List (Step σ)}

/-- What a pass has gone through is the front of a due list. -/
theorem exists_due_of_front {asking : Pipeline σ} {front : List Device} (hkept : ListingStore.IsKept asking.store)
    (hnow : asking.now.IsOrdinary) (hfront : front <+: asking.listing) (hsome : front ≠ []) :
    ∃ due, IsDueList asking.store (ListingStore.kept σ asking.now) due ∧ front <+: due := by
  unfold listing at hfront
  split at hfront
  · split at hfront
    · rename_i devices hlisted
      obtain ⟨due, hdue, rfl⟩ := ListingStore.exists_due hkept hnow hlisted
      exact ⟨due, hdue, hfront.trans (List.take_prefix _ _)⟩
    · exact absurd (List.prefix_nil.1 hfront) hsome
  · exact absurd (List.prefix_nil.1 hfront) hsome

/-- A device that was due when a pass asked for its list, and not in flight, and that was not queued then. -/
structure IsLeftBehind (asking : Pipeline σ) (steps : List (Step σ)) (device : Device) : Prop where
  known : Store.readDevice? asking.store asking.now device.id = .ok (some device)
  due : device.isDue (ListingStore.kept σ asking.now) = some true
  free : device.id ∉ asking.inFlight.ids
  unqueued : device.id ∉ (queuedIn steps).map (·.id)

theorem HasVisited.exists_listed {asking : Pipeline σ} {front : List Device} {id : Uuid}
    (hvisited : HasVisited asking asking.listing front steps last) (hkept : ListingStore.IsKept asking.store)
    (hnow : asking.now.IsOrdinary) (hqueued : id ∈ (queuedIn steps).map (·.id)) :
    ∃ due, IsDueList asking.store (ListingStore.kept σ asking.now) due ∧ front <+: due
      ∧ ∃ listed ∈ front, listed.id = id ∧ ∀ clock, Store.readDevice? asking.store clock id = .ok (some listed) := by
  obtain ⟨device, hdevice, rfl⟩ := List.mem_map.1 hqueued
  obtain ⟨listed, hlisted, hsame⟩ := List.mem_map.1 (hvisited.queued device hdevice)
  obtain ⟨due, hdue, hfront⟩ := exists_due_of_front hkept hnow hvisited.begins (List.ne_nil_of_mem hlisted)
  have hstored := ((hdue.mem_iff listed).1 (hfront.subset hlisted)).1
  exact ⟨due, hdue, hfront, listed, hlisted, hsame, hsame ▸ hstored⟩

theorem HasVisited.queued_of_place_lt {asking : Pipeline σ} {front due : List Device} {device other : Device}
    (hvisited : HasVisited asking asking.listing front steps last)
    (hdue : IsDueList asking.store (ListingStore.kept σ asking.now) due) (hfront : front <+: due)
    (hother : other ∈ front) (hdevice : device ∈ due) (hlt : device.place < other.place)
    (hfree : device.id ∉ asking.inFlight.ids) : device.id ∈ (queuedIn steps).map (·.id) :=
  (hvisited.visited device (hdue.mem_front hfront hother hdevice hlt)).resolve_left hfree

/-- A round of a run: from where one pass asks for its list to where the next one does. The run is faithful and over a well kept store, the clock shows ordinary times, and the adapters stamp their results while they poll. -/
structure IsRound (settings : PollerSettings) (store : σ) (start : Instant) (steps : List (Step σ))
    (first : Pipeline σ) (window : List (Step σ)) (second : Pipeline σ) : Prop where
  kept : ListingStore.IsKept store
  earlier : Run (create settings store start) steps first
  pass : IsPassRun first window second
  next : (Step.mk second .proceed).isAsking = true
  faithful : ∀ step ∈ steps ++ window, step.IsFaithful
  stamped : ∀ step ∈ steps ++ window, step.IsStamped
  ordinary : first.now.IsOrdinary ∧ second.now.IsOrdinary

namespace IsRound

variable (hround : IsRound settings store start steps first window second)
include hround

/-- The round begins where the pass has been listed its devices; to be listed them changes nothing but what the scheduler is at. -/
theorem exists_base : ∃ base, Run (create settings store start) (steps ++ [⟨first, .proceed⟩]) base
    ∧ Run base window second ∧ (∃ duty reply, base = { first with duty, reply })
    ∧ (∀ step ∈ (steps ++ [⟨first, .proceed⟩]) ++ window, step.IsFaithful)
    ∧ ∀ step ∈ (steps ++ [⟨first, .proceed⟩]) ++ window, step.IsStamped := by
  obtain ⟨base, hask, run⟩ := hround.pass.run
  have hsplit {holds : Step σ → Prop} (hsteps : ∀ step ∈ steps ++ window, holds step)
      (hasking : holds ⟨first, .proceed⟩) : ∀ step ∈ (steps ++ [⟨first, .proceed⟩]) ++ window, holds step := by
    intro step hmem
    rw [List.append_assoc, List.mem_append, List.singleton_append, List.mem_cons] at hmem
    rcases hmem with hearlier | rfl | hsince
    · exact hsteps step (List.mem_append_left _ hearlier)
    · exact hasking
    · exact hsteps step (List.mem_append_right _ hsince)
  exact ⟨base, hround.earlier.snoc hask, run, (listed_eq hround.pass.asks hask).1,
    hsplit hround.faithful (fun _ hmem => by cases hmem),
    hsplit hround.stamped ⟨hround.ordinary.1, fun _ hmem => by cases hmem⟩⟩

theorem faithful_earlier : ∀ step ∈ steps, step.IsFaithful := fun step hmem =>
  hround.faithful step (List.mem_append_left _ hmem)

theorem balanced : first.Balanced ∧ second.Balanced := by
  obtain ⟨base, earlier, run, _, hfaithful, _⟩ := hround.exists_base
  exact ⟨hround.earlier.balanced hround.faithful_earlier, (earlier.append run).balanced hfaithful⟩

/-- A device that is left behind is as free for the next pass as it was for this one, and it was not polled. -/
theorem of_isLeftBehind {left : Device} (hleft : first.IsLeftBehind window left) :
    first.IsUnpolled left.id ∧ left.id ∉ second.inFlight.ids ∧ ¬ HasSucceeded window left.id := by
  obtain ⟨base, earlier, run, ⟨duty, reply, rfl⟩, hfaithful, _⟩ := hround.exists_base
  refine ⟨?_, fun hmem => ?_, fun ⟨result, hresult, hsame, _⟩ => ?_⟩
  · exact hround.earlier.isUnpolled hround.faithful_earlier hleft.free
  · obtain ⟨budget, limit, hduty⟩ := duty_of_isAsking hround.next
    rcases (run.inFlight_cases hround.balanced.1.nodup).2 _ hmem with hbase | hsince | hhand
    · exact hleft.free hbase
    · exact hleft.unqueued hsince
    · rw [hduty] at hhand
      cases hhand
  · rcases earlier.deviceId_of_mem_accepted run hfaithful result hresult with hbase | hsince
    · exact hleft.free (hsame ▸ hbase)
    · exact hleft.unqueued (hsame ▸ hsince)

variable [LawfulStore σ] [OrderlyStore σ]

theorem isKept : ListingStore.IsKept first.store ∧ ListingStore.IsKept second.store := by
  obtain ⟨base, earlier, run, _, hfaithful, hstamped⟩ := hround.exists_base
  exact ⟨hround.earlier.isKept (hround.earlier.isChronological hround.faithful_earlier
      fun step hmem => hround.stamped step (List.mem_append_left _ hmem)) hround.kept,
    (earlier.append run).isKept ((earlier.append run).isChronological hfaithful hstamped) hround.kept⟩

theorem device?_second {clock : Instant} {id : Uuid} {stored : Device}
    (hstored : Store.readDevice? first.store clock id = .ok (some stored))
    (hunpolled : first.IsUnpolled id) (hended : id ∉ second.inFlight.ids) :
    (¬ HasSucceeded window id → Store.readDevice? second.store clock id = .ok (some stored))
      ∧ (HasSucceeded window id → ∃ last, ListingStore.kept σ first.now ≤ last
        ∧ Store.readDevice? second.store clock id = .ok (some { stored with lastPolledAt := some last })) := by
  obtain ⟨base, earlier, run, ⟨duty, reply, rfl⟩, hfaithful, hstamped⟩ := hround.exists_base
  exact earlier.device?_since run hround.kept hfaithful hstamped hround.ordinary.1 hstored
    ⟨hunpolled.polling, hunpolled.pending, hunpolled.unwritten⟩ ((earlier.append run).isUnpolled hfaithful hended)

/-- What is due for a pass and not polled meanwhile is due for the next one. -/
theorem mem_due_second {due later : List Device} {clock : Instant} {stored : Device}
    (hdue : IsDueList first.store (ListingStore.kept σ first.now) due)
    (hlater : IsDueList second.store (ListingStore.kept σ second.now) later) (hmem : stored ∈ due)
    (hsame : Store.readDevice? second.store clock stored.id = .ok (some stored)) : stored ∈ later := by
  obtain ⟨base, _, run, ⟨duty, reply, rfl⟩, _⟩ := hround.exists_base
  have hle : ListingStore.kept σ first.now ≤ ListingStore.kept σ second.now :=
    OrderlyStore.kept_mono hround.ordinary.1 hround.ordinary.2 run.now_le
  refine (hlater.mem_iff stored).2 ⟨fun other => ?_, Device.isDue_of_later ((hdue.mem_iff stored).1 hmem).2 hle⟩
  exact (ListingStore.readDevice?_eq hround.isKept.2 other clock stored.id).trans hsame

end IsRound

variable [LawfulStore σ] [OrderlyStore σ]

/-- A device that a pass left behind comes, in the next pass, before all that the first one queued and whose poll succeeded: none of them is queued unless it is. But it comes behind all whose poll failed or was called off: it is not queued unless they are. -/
theorem left_behind_before_polled (hround : IsRound settings store start steps first window second)
    (hsecond : IsPassRun second more last) :
    ∀ device ∈ queuedIn window, first.IsUnpolled device.id → device.id ∉ second.inFlight.ids →
      ∀ left : Device, first.IsLeftBehind window left →
        (HasSucceeded window device.id → device.id ∈ (queuedIn more).map (·.id) →
          left.id ∈ (queuedIn more).map (·.id))
        ∧ (¬ HasSucceeded window device.id → left.id ∈ (queuedIn more).map (·.id) →
          device.id ∈ (queuedIn more).map (·.id)) := by
  intro device hdevice hunpolled hended left hleft
  obtain ⟨front, hvisited⟩ := hround.pass.hasVisited hround.balanced.1.nodup
  obtain ⟨later, hthen⟩ := hsecond.hasVisited hround.balanced.2.nodup
  obtain ⟨hidle, hfree, hnever⟩ := hround.of_isLeftBehind hleft
  -- the queued device was in the front of the due list, and the other one behind it
  obtain ⟨due, hdue, hfront, listed, hlisted, hid, hstored⟩ :=
    hvisited.exists_listed hround.isKept.1 hround.ordinary.1 (List.mem_map_of_mem hdevice)
  have hleftDue : left ∈ due := (hdue.mem_iff left).2 ⟨fun clock =>
    (ListingStore.readDevice?_eq hround.isKept.1 clock first.now left.id).trans hleft.known, hleft.due⟩
  have hbehind : left ∉ front := fun hmem => (hvisited.visited left hmem).elim hleft.free hleft.unqueued
  have hleftThen := (hround.device?_second hleft.known hidle hfree).1 hnever
  obtain ⟨hfailed, hpolled⟩ := hround.device?_second (hstored first.now) hunpolled hended
  refine ⟨fun hsucceeded hqueued => ?_, fun hunsuccessful hqueued => ?_⟩
  · obtain ⟨polledAt, hle, hmarked⟩ := hpolled hsucceeded
    obtain ⟨dueThen, hdueThen, hfrontThen, found, hfound, _, hfoundStored⟩ :=
      hthen.exists_listed hround.isKept.2 hround.ordinary.2 hqueued
    obtain rfl : found = { listed with lastPolledAt := some polledAt } :=
      Option.some.inj (Except.ok.inj ((hfoundStored first.now).symm.trans hmarked))
    have hlt : left.place < Device.place { listed with lastPolledAt := some polledAt } :=
      Device.place_lt_of_isDue hleft.due rfl hle
    exact hthen.queued_of_place_lt hdueThen hfrontThen hfound
      (hround.mem_due_second hdue hdueThen hleftDue hleftThen) hlt hfree
  · obtain ⟨dueThen, hdueThen, hfrontThen, found, hfound, _, hfoundStored⟩ :=
      hthen.exists_listed hround.isKept.2 hround.ordinary.2 hqueued
    obtain rfl : found = left := Option.some.inj (Except.ok.inj ((hfoundStored first.now).symm.trans hleftThen))
    have hunmarked := hfailed hunsuccessful
    rw [← hid] at hunmarked hended ⊢
    exact hthen.queued_of_place_lt hdueThen hfrontThen hfound
      (hround.mem_due_second hdue hdueThen (hfront.subset hlisted) hunmarked)
      (hdue.place_lt hfront hlisted hleftDue hbehind) hended

end

/-! ### Left behind, polled and failed -/

/-- Follows moves to where a pass asks for its list, from there to where the next one does, and beyond that. -/
def followRound? (pipeline : Pipeline σ) (before between after : List Move) :
    Option ((List (Step σ) × Pipeline σ) × (List (Step σ) × Pipeline σ) × List (Step σ) × Pipeline σ) := do
  let (steps, first) ← pipeline.follow? before
  let listed ← first.step? .proceed
  let (window, second) ← listed.follow? between
  let relisted ← second.step? .proceed
  let (more, last) ← relisted.follow? after
  return ((steps, first), (window, second), more, last)

theorem isRound_of_follow [ListingStore σ] {settings : PollerSettings} {store : σ} {start : Instant}
    {before between after : List Move} {steps window more : List (Step σ)} {first second last : Pipeline σ}
    (hkept : ListingStore.IsKept store)
    (hfollow : (create settings store start).followRound? before between after
      = some ((steps, first), (window, second), more, last))
    (hasks : (Step.mk first .proceed).isAsking = true ∧ (Step.mk second .proceed).isAsking = true)
    (halone : ∀ step ∈ window ++ more, step.isAsking = false ∧ step.move.isSingle = false)
    (hsteps : ∀ step ∈ steps ++ window, step.IsFaithful ∧ step.IsStamped)
    (hordinary : first.now.IsOrdinary ∧ second.now.IsOrdinary) :
    IsRound settings store start steps first window second ∧ IsPassRun second more last := by
  simp only [followRound?, Option.bind_eq_bind, Option.bind_eq_some_iff] at hfollow
  obtain ⟨⟨_, _⟩, hbefore, listed, hask, ⟨_, _⟩, hbetween, relisted, hagain, ⟨_, _⟩, hafter, hresult⟩ := hfollow
  cases hresult
  refine ⟨⟨hkept, Run.refl.follow hbefore, ⟨hasks.1, ⟨listed, hask, Run.refl.follow hbetween⟩, ?_⟩, hasks.2,
    fun step hmem => (hsteps step hmem).1, fun step hmem => (hsteps step hmem).2, hordinary⟩,
    hasks.2, ⟨relisted, hagain, Run.refl.follow hafter⟩, ?_⟩
  · exact fun step hmem => halone step (List.mem_append_left _ hmem)
  · exact fun step hmem => halone step (List.mem_append_right _ hmem)

instance (steps : List (Step σ)) (id : Uuid) : Decidable (HasSucceeded steps id) :=
  inferInstanceAs (Decidable (∃ result ∈ accepted steps, result.deviceId = id ∧ result.success = true))

def trio : PollerSettings := { PollerSettings.default with workerCount := 3, concurrentPolls := 3 }

def quartet : MemoryStore := (MemoryStore.sample.upsertDevice (.sample 3)).upsertDevice (.sample 4)

/-- The fourth device is polled on its own, so a pass queues the first two and leaves the third behind. The poll of the second crashes, the others succeed. -/
def quartetMoves : List Move :=
  List.replicate 5 .proceed ++ [.take 0, .take 1, .take 2, .consider 0, .consider 1, .consider 2, .advance ⟨1001, 0⟩,
    .conclude 0 (.settled (.ok ((PollResult.start (.sample 4) "snmp" ⟨1000, 1⟩).succeed ⟨1001, 0⟩))),
    .conclude 1 (.settled (.ok ((PollResult.start (.sample 1) "snmp" ⟨1000, 0⟩).succeed ⟨1001, 0⟩))),
    .conclude 2 .crashed, .forward 0, .forward 1, .forward 2,
    .accept, .write, .write, .write, .release, .accept, .write, .write, .write, .release,
    .accept, .write, .write, .release, .advance ⟨1100, 0⟩, .beginPass, .proceed, .proceed]

/-- When all three are due the next pass queues the second device again, then the third, and the first after them. -/
theorem left_behind_before_polled_quartet : ∃ steps first window second more last,
    IsRound trio quartet ⟨1000, 0⟩ steps first window second ∧ IsPassRun second more last
    ∧ (queuedIn window).map (·.id) = [⟨1⟩, ⟨2⟩] ∧ first.IsLeftBehind window (.sample 3)
    ∧ HasSucceeded window ⟨1⟩ ∧ ¬ HasSucceeded window ⟨2⟩
    ∧ (⟨1⟩ ∈ (queuedIn more).map (·.id) → ⟨3⟩ ∈ (queuedIn more).map (·.id))
    ∧ (⟨3⟩ ∈ (queuedIn more).map (·.id) → ⟨2⟩ ∈ (queuedIn more).map (·.id))
    ∧ (queuedIn more).map (·.id) = [⟨2⟩, ⟨3⟩, ⟨1⟩] := by
  have hrun : ((create trio quartet ⟨1000, 0⟩).followRound? [.beginSingle ⟨4⟩, .proceed, .proceed, .proceed, .beginPass,
      .proceed, .proceed] quartetMoves (List.replicate 7 .proceed)).any
        (fun ((steps, first), (window, second), more, _) =>
          decide ((Step.mk first .proceed).isAsking = true ∧ (Step.mk second .proceed).isAsking = true)
          && decide (∀ step ∈ window ++ more, step.isAsking = false ∧ step.move.isSingle = false)
          && decide (∀ step ∈ steps ++ window, step.IsFaithful ∧ step.IsStamped)
          && decide (first.now.IsOrdinary ∧ second.now.IsOrdinary)
          && decide ((queuedIn window).map (·.id) = [⟨1⟩, ⟨2⟩])
          && decide (first.inFlight.ids = [⟨4⟩] ∧ second.inFlight.ids = [])
          && decide ((first.store.view ⟨3⟩).entry.map (·.device) = some (.sample 3)
            ∧ (Device.sample 3).isDue first.now = some true)
          && decide (HasSucceeded window ⟨1⟩ ∧ ¬ HasSucceeded window ⟨2⟩)
          && decide ((queuedIn more).map (·.id) = [⟨2⟩, ⟨3⟩, ⟨1⟩])) = true := by
    rw [MemoryStore.eq_byInsertion]
    decide +kernel
  obtain ⟨⟨⟨steps, first⟩, ⟨window, second⟩, more, last⟩, hfollow, hlast⟩ := (Option.any_eq_true _ _).1 hrun
  simp only [Bool.and_eq_true, decide_eq_true_eq] at hlast
  obtain ⟨⟨⟨⟨⟨⟨⟨⟨hasks, halone⟩, hsteps⟩, hordinary⟩, hqueued⟩, hinFlight, hnone⟩, hknown, hdue⟩, hsucceeded, hfailed⟩,
    hthen⟩ := hlast
  have hkept : ListingStore.IsKept quartet := (MemoryStore.isReached_sample.upserted _).upserted _
  obtain ⟨hround, hsecond⟩ := isRound_of_follow hkept hfollow hasks halone hsteps hordinary
  have hleft : first.IsLeftBehind window (.sample 3) := by
    refine ⟨congrArg Except.ok hknown, hdue, ?_, ?_⟩
    · rw [hinFlight]
      decide
    · rw [hqueued]
      decide
  have hfree (id : Uuid) (hother : id ≠ ⟨4⟩) : first.IsUnpolled id := by
    refine hround.earlier.isUnpolled hround.faithful_earlier ?_
    rw [hinFlight, List.mem_singleton]
    exact hother
  have hboth (id : Uuid) (hmem : id ∈ (queuedIn window).map (·.id)) (hother : id ≠ ⟨4⟩) :
      (HasSucceeded window id → id ∈ (queuedIn more).map (·.id) → ⟨3⟩ ∈ (queuedIn more).map (·.id))
        ∧ (¬ HasSucceeded window id → ⟨3⟩ ∈ (queuedIn more).map (·.id) → id ∈ (queuedIn more).map (·.id)) := by
    obtain ⟨device, hdevice, rfl⟩ := List.mem_map.1 hmem
    exact left_behind_before_polled hround hsecond device hdevice (hfree _ hother) (by rw [hnone]; exact List.not_mem_nil)
      (.sample 3) hleft
  rw [hqueued] at hboth
  exact ⟨steps, first, window, second, more, last, hround, hsecond, hqueued, hleft, hsucceeded, hfailed,
    (hboth ⟨1⟩ (by decide) (by decide)).1 hsucceeded, (hboth ⟨2⟩ (by decide) (by decide)).2 hfailed, hthen⟩

/-- One device may be in flight, and the first of two is polled and crashes. -/
def failingMoves : List Move :=
  List.replicate 3 .proceed ++ [.take 0, .consider 0, .conclude 0 .crashed, .forward 0, .accept, .write, .write, .release,
    .advance ⟨1001, 0⟩, .beginPass, .proceed, .proceed]

/-- The next pass admits the device that failed once more, and leaves the other one behind again. -/
theorem failed_before_left_behind : ∃ steps first window second more last,
    IsRound { trio with concurrentPolls := 1 } MemoryStore.sample ⟨1000, 0⟩ steps first window second
    ∧ IsPassRun second more last ∧ last.duty = .idle
    ∧ (queuedIn window).map (·.id) = [⟨1⟩] ∧ first.IsLeftBehind window (.sample 2)
    ∧ first.limit = 1 ∧ first.inFlight.ids = [] ∧ second.inFlight.ids = []
    ∧ (queuedIn more).map (·.id) = [⟨1⟩] := by
  have hrun : ((create { trio with concurrentPolls := 1 } MemoryStore.sample ⟨1000, 0⟩).followRound?
      [.beginPass, .proceed, .proceed] failingMoves (List.replicate 3 .proceed)).any
        (fun ((steps, first), (window, second), more, last) =>
          decide ((Step.mk first .proceed).isAsking = true ∧ (Step.mk second .proceed).isAsking = true)
          && decide (∀ step ∈ window ++ more, step.isAsking = false ∧ step.move.isSingle = false)
          && decide (∀ step ∈ steps ++ window, step.IsFaithful ∧ step.IsStamped)
          && decide (first.now.IsOrdinary ∧ second.now.IsOrdinary)
          && decide (last.duty = .idle ∧ first.limit = 1)
          && decide ((queuedIn window).map (·.id) = [⟨1⟩] ∧ (queuedIn more).map (·.id) = [⟨1⟩])
          && decide (first.inFlight.ids = [] ∧ second.inFlight.ids = [])
          && decide ((first.store.view ⟨2⟩).entry.map (·.device) = some (.sample 2)
            ∧ (Device.sample 2).isDue first.now = some true)) = true := by
    rw [MemoryStore.eq_byInsertion]
    decide +kernel
  obtain ⟨⟨⟨steps, first⟩, ⟨window, second⟩, more, last⟩, hfollow, hlast⟩ := (Option.any_eq_true _ _).1 hrun
  simp only [Bool.and_eq_true, decide_eq_true_eq] at hlast
  obtain ⟨⟨⟨⟨⟨⟨⟨hasks, halone⟩, hsteps⟩, hordinary⟩, hidle, hlimit⟩, hqueued, hthen⟩, hnone, hended⟩, hknown, hdue⟩ :=
    hlast
  obtain ⟨hround, hsecond⟩ := isRound_of_follow MemoryStore.isReached_sample hfollow hasks halone hsteps hordinary
  have hleft : first.IsLeftBehind window (.sample 2) := by
    refine ⟨congrArg Except.ok hknown, hdue, ?_, ?_⟩
    · rw [hnone]
      exact List.not_mem_nil
    · rw [hqueued]
      decide
  exact ⟨steps, first, window, second, more, last, hround, hsecond, hidle, hqueued, hleft, hlimit, hnone, hended, hthen⟩

end Pipeline

end RouterPoll
