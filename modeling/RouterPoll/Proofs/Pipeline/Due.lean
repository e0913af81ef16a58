import RouterPoll.Proofs.Pipeline.Run
import RouterPoll.Proofs.Store.Lawful

/-!
# What a pass admits

A pass admits devices from a list that the store gave it, and while it goes through the list the processor goes on writing. A device that was due when it was listed stays due as time passes, until it is marked as polled. So a device that a pass admits is due, unless it was marked since it was listed; and then it is due only if its interval has passed since the poll that the mark is about.

The exception is real. Devices in flight are listed too, and one of them may be marked and released before the pass comes to it. The pass finds it free and admits it once more, right after its poll.
-/

namespace RouterPoll

def Deed.update? : Deed → Option StoreUpdate
  | write update => some update
  | _ => none

/-- The device that a pass is about to claim, if it is free, or to put into the work queue after that. -/
def Duty.admitting? : Duty → Option Device
  | visiting _ _ (device :: _) => some device
  | sending device _ _ _ => some device
  | _ => none

theorem Duty.mem_remaining {duty : Duty} {device : Device} (hduty : duty.admitting? = some device) :
    device ∈ duty.remaining := by
  cases duty with
  | visiting budget admitted due =>
      cases due with
      | nil => cases hduty
      | cons first due =>
          cases hduty
          exact List.mem_cons_self
  | sending first budget admitted due =>
      cases hduty
      exact List.mem_cons_self
  | _ => cases hduty

namespace Pipeline

variable {σ : Type} [Store σ]

/-! ### Marks -/

namespace Step

/-- Whether the scheduler has yet to be listed the devices of its pass. -/
def isListing (step : Step σ) : Bool :=
  match step.before.duty with
  | .listing _ _ => true
  | _ => false

def update? (step : Step σ) : Option StoreUpdate := step.deed?.bind Deed.update?

/-- The time a step notes for the last poll of a device. -/
def mark? (step : Step σ) (id : Uuid) : Option Instant :=
  match step.update? with
  | some (.polled deviceId polledAt) =>
    if deviceId = id
        ∧ ((StoreUpdate.polled deviceId polledAt).run step.before.now step.before.store).1.isOk then
      some polledAt
    else none
  | _ => none

/-- The clock shows an ordinary time, and a mark is of a time in the covered years. -/
def IsTimely (step : Step σ) : Prop :=
  step.before.now.IsOrdinary ∧ ∀ update ∈ step.update?, update.IsDated

instance (step : Step σ) : Decidable step.IsTimely := inferInstanceAs (Decidable (_ ∧ _))

end Step

/-- The last time noted for a device since the pass was listed its devices. -/
def lastMark (id : Uuid) (steps : List (Step σ)) : Option Instant :=
  steps.foldl (fun mark step => if step.isListing then none else (step.mark? id).or mark) none

theorem lastMark_append (id : Uuid) (steps : List (Step σ)) (step : Step σ) :
    lastMark id (steps ++ [step])
      = if step.isListing then none else (step.mark? id).or (lastMark id steps) := by
  rw [lastMark, List.foldl_append]
  rfl

/-! ### What a move does to store, clock and list -/

variable {pipeline next : Pipeline σ} {deed : Option Deed}

theorem Effect.store_eq (heffect : pipeline.Effect deed next) : next.store =
    ((deed.bind Deed.update?).map fun update => (update.run pipeline.now pipeline.store).2).getD
      pipeline.store := by
  cases heffect <;> rfl

theorem Effect.now_not_before (heffect : pipeline.Effect deed next) :
    next.now.before pipeline.now = false := by
  cases heffect with
  | advanced hclock => exact hclock
  | _ => exact Instant.before_self _

theorem Effect.remaining_cases (heffect : pipeline.Effect deed next) {device : Device}
    (hmem : device ∈ next.duty.remaining) : device ∈ pipeline.duty.remaining
      ∨ device ∈ pipeline.listing ∧ next.store = pipeline.store ∧ next.now = pipeline.now
        ∧ next.inFlight = pipeline.inFlight := by
  cases heffect with
  | planned hbefore hafter hended hallowance hremaining =>
      rcases List.mem_append.1 (hremaining.subset hmem) with hold | hnew
      · exact .inl hold
      · exact .inr ⟨hnew, rfl, rfl, rfl⟩
  | claimed hbefore hafter hended hallowance hremaining hclaim => exact .inl (hremaining.subset hmem)
  | sent hbefore hafter hallowance hremaining hoffer =>
      exact .inl (List.mem_of_mem_tail (hremaining.subset hmem))
  | refused hbefore hoffer => cases hmem
  | _ => exact .inl hmem

omit [Store σ] in
theorem not_isListing_of_mem {move : Move} {device : Device} (hmem : device ∈ pipeline.duty.remaining) :
    (Step.mk pipeline move).isListing = false := by
  unfold Step.isListing
  show (match pipeline.duty with | .listing _ _ => true | _ => false) = false
  split
  · rename_i hduty
    rw [hduty] at hmem
    cases hmem
  · rfl

theorem listed_of_mem_listing (move : Move) {device : Device} (hmem : device ∈ pipeline.listing) :
    (Step.mk pipeline move).isListing = true ∧ ∃ limit devices,
      Store.readDue pipeline.store (fun _ => pipeline.now) pipeline.now limit = .listed devices ∧ device ∈ devices := by
  unfold listing at hmem
  split at hmem
  · rename_i budget limit hduty
    have hlisting : (Step.mk pipeline move).isListing = true := by
      simp only [Step.isListing, hduty]
    split at hmem
    · rename_i devices hlisted
      exact ⟨hlisting, limit, devices, hlisted, hmem⟩
    · cases hmem
  · cases hmem

/-! ### What the store says of a listed device -/

variable [LawfulStore σ] {steps : List (Step σ)} {move : Move} {clock : Instant} {id : Uuid}

/-- A step leaves what the store says of a device alone, but for the mark it makes. -/
theorem device?_step {stored : Device} (hsound : LawfulStore.IsSound pipeline.store)
    (hstep : pipeline.step? move = some next)
    (hstored : Store.readDevice? pipeline.store clock id = .ok (some stored)) :
    Store.readDevice? next.store clock id = .ok (some
      (match (Step.mk pipeline move).mark? id with
      | some polledAt => { stored with lastPolledAt := some (polledAt.keptIn σ clock) }
      | none => stored)) := by
  have hmark : (Step.mk pipeline move).update? = (pipeline.deed? move).bind Deed.update? := rfl
  rw [(effect_of_step? hstep).store_eq, Step.mark?, hmark]
  cases (pipeline.deed? move).bind Deed.update? with
  | none => exact hstored
  | some update =>
      cases update with
      | polled deviceId polledAt =>
          by_cases hid : deviceId = id
          · subst hid
            cases hdone : ((StoreUpdate.polled deviceId polledAt).run pipeline.now
                pipeline.store).1.isOk with
            | true =>
                simp only [hdone, and_self, if_true]
                exact LawfulStore.device?_of_polled hsound hdone hstored
            | false =>
                simp only [hdone, Bool.false_eq_true, and_false, if_false]
                show Store.readDevice? ((StoreUpdate.polled deviceId polledAt).run _ _).2 _ _ = _
                rw [StoreUpdate.run_polled_of_refused hdone]
                exact hstored
          · simp only [hid, false_and, if_false]
            refine LawfulStore.device?_of_other hsound ?_ hstored
            intro other hsame
            cases hsame
            exact hid rfl
      | _ => exact LawfulStore.device?_of_other hsound (fun _ hsame => by cases hsame) hstored

/-- What is known of a device since it was listed: it is due until it is marked, and from then on the mark is its last poll. -/
def IsListed (steps : List (Step σ)) (pipeline : Pipeline σ) (clock : Instant) (id : Uuid) : Prop :=
  ∃ stored, Store.readDevice? pipeline.store clock id = .ok (some stored)
    ∧ stored.pollingEnabled = true ∧ stored.status = .active
    ∧ (lastMark id steps = none → stored.isDue pipeline.now = some true)
    ∧ ∀ polledAt, lastMark id steps = some polledAt →
      stored.lastPolledAt = some (polledAt.keptIn σ clock)

theorem IsListed.step (hlisted : pipeline.IsListed steps clock id)
    (hsound : LawfulStore.IsSound pipeline.store) (hstep : pipeline.step? move = some next)
    (hvisiting : (Step.mk pipeline move).isListing = false) :
    next.IsListed (steps ++ [⟨pipeline, move⟩]) clock id := by
  obtain ⟨stored, hstored, henabled, hactive, hdue, hpolled⟩ := hlisted
  have hnext := device?_step hsound hstep hstored
  have hlater := (effect_of_step? hstep).now_not_before
  unfold IsListed
  rw [lastMark_append, hvisiting]
  cases hmark : (Step.mk pipeline move).mark? id with
  | some marked =>
      rw [hmark] at hnext
      refine ⟨_, hnext, henabled, hactive, ?_, ?_⟩
      · intro hnone
        cases hnone
      · intro polledAt hsome
        cases hsome
        rfl
  | none =>
      rw [hmark] at hnext
      exact ⟨_, hnext, henabled, hactive, fun hnone => Device.isDue_of_later (hdue hnone) hlater,
        hpolled⟩

theorem isListed_of_mem_listing {device : Device} (hmem : device ∈ pipeline.listing)
    (hsound : LawfulStore.IsSound pipeline.store) (hordinary : pipeline.now.IsOrdinary)
    (hstore : next.store = pipeline.store) (hnow : next.now = pipeline.now) :
    next.IsListed (steps ++ [⟨pipeline, move⟩]) clock device.id := by
  obtain ⟨hlisting, limit, devices, hlisted, hmem⟩ := listed_of_mem_listing move hmem
  obtain ⟨stored, hstored, hdue⟩ := LawfulStore.due_of_listed hsound hordinary hlisted hmem clock
  obtain ⟨henabled, hactive, _⟩ := Device.isDue_iff.1 hdue
  unfold IsListed
  rw [lastMark_append, hlisting, hstore, hnow]
  refine ⟨stored, hstored, henabled, hactive, fun _ => hdue, ?_⟩
  intro polledAt hsome
  cases hsome

theorem isSound_step (hsound : LawfulStore.IsSound pipeline.store)
    (hstep : pipeline.step? move = some next) (htimely : (Step.mk pipeline move).IsTimely) :
    LawfulStore.IsSound next.store := by
  have hdated : ∀ update ∈ (pipeline.deed? move).bind Deed.update?, update.IsDated := htimely.2
  rw [(effect_of_step? hstep).store_eq]
  cases hupdate : (pipeline.deed? move).bind Deed.update? with
  | none => exact hsound
  | some update => exact LawfulStore.isSound_run _ (hdated update hupdate) hsound

theorem Run.isSound {start : Pipeline σ} (run : Run start steps pipeline)
    (hsound : LawfulStore.IsSound start.store) (htimely : ∀ step ∈ steps, step.IsTimely) :
    LawfulStore.IsSound pipeline.store := by
  induction run with
  | refl => exact hsound
  | @snoc steps pipeline next move run hstep ih =>
      exact isSound_step (ih fun step hmem => htimely step (List.mem_append_left _ hmem)) hstep
        (htimely ⟨pipeline, move⟩ (List.mem_append_right _ (List.mem_singleton.2 rfl)))

theorem Run.isListed {start : Pipeline σ} (run : Run start steps pipeline)
    (hsound : LawfulStore.IsSound start.store) (hidle : start.duty = .idle)
    (htimely : ∀ step ∈ steps, step.IsTimely) (clock : Instant) :
    ∀ device ∈ pipeline.duty.remaining, pipeline.IsListed steps clock device.id := by
  induction run with
  | refl =>
      intro device hmem
      rw [hidle] at hmem
      cases hmem
  | @snoc steps pipeline next move run hstep ih =>
      have hlast := htimely ⟨pipeline, move⟩ (List.mem_append_right _ (List.mem_singleton.2 rfl))
      have hearlier : ∀ step ∈ steps, step.IsTimely := fun step hmem =>
        htimely step (List.mem_append_left _ hmem)
      have hbefore := run.isSound hsound hearlier
      have hlisted := ih hearlier
      intro device hmem
      rcases (effect_of_step? hstep).remaining_cases hmem with hold | ⟨hnew, hstore, hnow, _⟩
      · exact (hlisted device hold).step hbefore hstep (not_isListing_of_mem hold)
      · exact isListed_of_mem_listing hnew hbefore hlast.1 hstore hnow

/-! ### Admitted devices -/

/-- The device that a pass admits is enabled and active in the store, read under any clock. It is due, unless it was marked as polled since the pass took its list and its interval has not passed since the poll of that mark. -/
theorem isDue_iff_of_admitting {settings : PollerSettings} {store : σ} {start : Instant}
    {device : Device} (hsound : LawfulStore.IsSound store)
    (run : Run (create settings store start) steps pipeline)
    (htimely : ∀ step ∈ steps, step.IsTimely) (hduty : pipeline.duty.admitting? = some device) (clock : Instant) :
    ∃ stored, Store.readDevice? pipeline.store clock device.id = .ok (some stored)
      ∧ stored.pollingEnabled = true ∧ stored.status = .active
      ∧ (stored.isDue pipeline.now = some true ↔ ∀ polledAt ∈ lastMark device.id steps,
          ∃ next, (polledAt.keptIn σ clock).addSeconds stored.pollingInterval = some next
            ∧ next.before pipeline.now = true) := by
  obtain ⟨stored, hstored, henabled, hactive, hdue, hpolled⟩ :=
    run.isListed hsound rfl htimely clock device (Duty.mem_remaining hduty)
  refine ⟨stored, hstored, henabled, hactive, ?_⟩
  cases hmark : lastMark device.id steps with
  | none =>
      refine ⟨fun _ polledAt hmem => ?_, fun _ => hdue hmark⟩
      cases hmem
  | some marked =>
      rw [Device.isDue_iff, hpolled marked hmark]
      refine ⟨fun ⟨_, _, hpassed⟩ polledAt hmem => ?_, fun hpassed => ⟨henabled, hactive, ?_⟩⟩
      · cases hmem
        exact hpassed _ rfl
      · intro last hlast
        cases hlast
        exact hpassed marked rfl

/-! ### A pass that comes late -/

def single : Pipeline MemoryStore :=
  create { PollerSettings.default with workerCount := 1, concurrentPolls := 2 }
    (MemoryStore.empty.upsertDevice (.sample 1)) ⟨1000, 0⟩

/-- The device is being polled when a pass takes its list, and is marked and released before the pass comes to it. -/
def lateMoves : List Move :=
  [.beginSingle ⟨1⟩, .proceed, .proceed, .proceed, .take 0, .consider 0, .beginPass, .proceed, .proceed,
    .proceed, .advance ⟨1001, 0⟩,
    .conclude 0 (.settled (.ok ((PollResult.start (.sample 1) "snmp" ⟨1000, 0⟩).succeed ⟨1001, 0⟩))),
    .forward 0, .accept, .write, .write, .write, .release]

/-- If the pass comes later still, the interval has passed since the poll, and the device is due again. -/
theorem isDue_iff_of_admitting_single : ∃ steps pipeline, Run single steps pipeline
    ∧ pipeline.duty.admitting? = some (.sample 1) ∧ pipeline.now = ⟨1061, 0⟩
    ∧ lastMark ⟨1⟩ steps = some ⟨1000, 0⟩
    ∧ ∃ stored, Store.readDevice? pipeline.store pipeline.now ⟨1⟩ = .ok (some stored)
      ∧ stored.pollingEnabled = true ∧ stored.status = .active
      ∧ (stored.isDue pipeline.now = some true ↔ ∀ polledAt ∈ lastMark ⟨1⟩ steps,
          ∃ next, polledAt.addSeconds stored.pollingInterval = some next
            ∧ next.before pipeline.now = true) := by
  have hrun : (single.follow? (lateMoves ++ [.advance ⟨1061, 0⟩])).any (fun (steps, pipeline) =>
      decide (∀ step ∈ steps, step.IsTimely)
        && decide (pipeline.duty.admitting? = some (.sample 1))
        && decide (pipeline.now = ⟨1061, 0⟩)
        && decide (lastMark ⟨1⟩ steps = some ⟨1000, 0⟩)) = true := by decide +kernel
  obtain ⟨⟨steps, pipeline⟩, hfollow, hlast⟩ := (Option.any_eq_true _ _).1 hrun
  simp only [Bool.and_eq_true, decide_eq_true_eq] at hlast
  obtain ⟨⟨⟨htimely, hduty⟩, hnow⟩, hmark⟩ := hlast
  have run : Run single steps pipeline := Run.refl.follow hfollow
  exact ⟨steps, pipeline, run, hduty, hnow, hmark,
    isDue_iff_of_admitting (MemoryStore.IsReached.empty.upserted _) run htimely hduty pipeline.now⟩

/-- As it is, the pass claims and queues a device that was polled a second before and is not due. -/
theorem admitted_right_after_poll : ∃ steps pipeline claimed queued stored, Run single steps pipeline
    ∧ (∀ step ∈ steps, step.IsTimely ∧ step.IsFaithful)
    ∧ pipeline.duty.admitting? = some (.sample 1) ∧ pipeline.inFlight.ids = []
    ∧ pipeline.step? .proceed = some claimed ∧ claimed.inFlight.ids = [⟨1⟩]
    ∧ claimed.step? .proceed = some queued ∧ queued.work.items.map (·.id) = [⟨1⟩]
    ∧ Store.readDevice? pipeline.store pipeline.now ⟨1⟩ = .ok (some stored)
    ∧ stored.lastPolledAt = some ⟨1000, 0⟩ ∧ stored.pollingInterval = 60
    ∧ pipeline.now = ⟨1001, 0⟩ ∧ stored.isDue pipeline.now = some false := by
  have hrun : (single.follow? lateMoves).any (fun (steps, pipeline) =>
      decide (∀ step ∈ steps, step.IsTimely ∧ step.IsFaithful)
        && decide (pipeline.duty.admitting? = some (.sample 1) ∧ pipeline.inFlight.ids = []
          ∧ pipeline.now = ⟨1001, 0⟩)
        && ((pipeline.store.view ⟨1⟩).entry.map (·.device)).any (fun stored =>
          decide (stored.lastPolledAt = some ⟨1000, 0⟩ ∧ stored.pollingInterval = 60
            ∧ stored.isDue pipeline.now = some false))
        && (pipeline.step? .proceed).any fun claimed => decide (claimed.inFlight.ids = [⟨1⟩])
          && (claimed.step? .proceed).any fun queued =>
            decide (queued.work.items.map (·.id) = [⟨1⟩])) = true := by decide +kernel
  obtain ⟨⟨steps, pipeline⟩, hfollow, hlast⟩ := (Option.any_eq_true _ _).1 hrun
  simp only [Bool.and_eq_true, decide_eq_true_eq, Option.any_eq_true] at hlast
  obtain ⟨⟨⟨hsteps, hduty, hfree, hnow⟩, stored, hstored, hlastPoll, hinterval, hdue⟩,
    claimed, hclaim, hclaimed, queued, hqueue, hqueued⟩ := hlast
  exact ⟨steps, pipeline, claimed, queued, stored, Run.refl.follow hfollow, hsteps, hduty, hfree, hclaim,
    hclaimed, hqueue, hqueued, congrArg Except.ok hstored, hlastPoll, hinterval, hnow, hdue⟩

end Pipeline

end RouterPoll
