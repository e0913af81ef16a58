import RouterPoll.Proofs.Pipeline.Places

/-!
# Room in the work queue

Nothing in the scheduler compares the room in the work queue with the number of devices that may be in flight. That the queue never refuses a device follows from how the pipeline was put together: the queue has room for as many devices as may be in flight, and a device that waits in it, or that the scheduler has in its hand, is in flight as well.

This does not depend on what the adapters report. A result about another device than the polled one releases the wrong device or none, and then more devices may be in flight than stand in some place, never fewer.
-/

namespace RouterPoll

/-- Whether the scheduler is in the midst of a command: one was begun and may admit something, and it is not at its end. -/
def Duty.isUnderWay : Duty → Bool
  | idle => false
  | ended _ => false
  | checkingRoom _ => false
  | _ => true

namespace Pipeline

variable {σ : Type} {before next : Pipeline σ}

/-- Why the scheduler gives an answer that admits less than was asked for: a pass ends when no device is left, when it may admit no more or when the polling is called off, and a single device is not admitted when none may be or when it is in flight. -/
def Justifies (pipeline : Pipeline σ) : Reply → Prop
  | .ok (.admitted count) =>
    (pipeline.duty = .idle ∧ count = 0 ∧ pipeline.limit ≤ pipeline.inFlight.size)
      ∨ ∃ budget due, pipeline.duty = .visiting budget count due
        ∧ (due = [] ∨ budget ≤ count ∨ pipeline.cancelled = true)
  | .ok (.taken false) =>
    (pipeline.duty = .idle ∧ pipeline.limit ≤ pipeline.inFlight.size)
      ∨ ∃ device, pipeline.duty = .claiming device ∧ device.id ∈ pipeline.inFlight.ids
  | _ => True

/-- What every step keeps, whatever the adapters report. -/
structure HasRoom (pipeline : Pipeline σ) : Prop where
  isOpen : pipeline.work.isOpen = true
  capacity : pipeline.work.capacity = pipeline.limit
  places : pipeline.places.length ≤ pipeline.inFlight.size
  room : pipeline.inFlight.size + pipeline.duty.allowance ≤ pipeline.limit
  checking : ∀ budget, pipeline.duty = .checkingRoom budget → 0 < budget

theorem hasRoom_create (settings : PollerSettings) (store : σ) (now : Instant) :
    (create settings store now).HasRoom where
  isOpen := rfl
  capacity := rfl
  places := Nat.le_of_eq (balanced_create settings store now).perm.length_eq.symm
  room := (balanced_create settings store now).room
  checking _ hduty := by cases hduty

theorem HasRoom.room_pos (hroom : before.HasRoom) (hallowance : 0 < before.duty.allowance) :
    0 < before.work.room := by
  have hplaces := hroom.places
  have hlimit := hroom.room
  simp only [Pipeline.places, List.length_append, List.length_map] at hplaces
  rw [Queue.room, hroom.capacity]
  omega

/-! ### Answers -/

theorem limit_le_of_budget (hbudget : (before.budget == 0) = true) :
    before.limit ≤ before.inFlight.size := by
  have hzero : before.limit - before.inFlight.size = 0 := beq_iff_eq.1 hbudget
  omega

/-- What a step towards an answer leads to: a pass that may admit something, an answer that is justified, or another duty. -/
structure IsSound (before next : Pipeline σ) : Prop where
  checking : ∀ budget, next.duty = .checkingRoom budget → 0 < budget
  answer : next.duty = .idle ∨ next.duty.isEnded = true →
    ∀ reply, next.reply = some reply → before.Justifies reply

theorem isSound_answer {reply : Reply} (hjustified : before.Justifies reply) :
    before.IsSound (before.answer reply) where
  checking _ hduty := by cases hduty
  answer _ _ hreply := by
    cases hreply
    exact hjustified

theorem isSound_of_beginPass? (hstep : before.beginPass? = some next) : before.IsSound next := by
  unfold beginPass? at hstep
  split at hstep
  · rename_i hidle
    split at hstep
    · cases hstep
    · split at hstep
      · rename_i hbudget
        cases hstep
        exact isSound_answer (.inl ⟨hidle, rfl, limit_le_of_budget hbudget⟩)
      · rename_i hbudget
        cases hstep
        refine ⟨fun budget hduty => ?_, fun hended => by rcases hended with hend | hend <;> cases hend⟩
        cases hduty
        exact Nat.pos_of_ne_zero fun hzero => hbudget (beq_iff_eq.2 hzero)
  · cases hstep

theorem isSound_of_isUnderWay (hunder : next.duty.isUnderWay = true) : before.IsSound next where
  checking budget hduty := by
    rw [hduty] at hunder
    cases hunder
  answer hend := by
    cases hduty : next.duty with
    | idle =>
        rw [hduty] at hunder
        cases hunder
    | ended isClean =>
        rw [hduty] at hunder
        cases hunder
    | _ =>
        rw [hduty] at hend
        rcases hend with hend | hend <;> cases hend

theorem isSound_of_beginSingle? {id : Uuid} (hstep : before.beginSingle? id = some next) :
    before.IsSound next := by
  unfold beginSingle? at hstep
  split at hstep
  · rename_i hidle
    split at hstep
    · cases hstep
    · split at hstep
      · rename_i hbudget
        cases hstep
        exact isSound_answer (.inl ⟨hidle, limit_le_of_budget hbudget⟩)
      · cases hstep
        exact isSound_of_isUnderWay rfl
  · cases hstep

/-! ### Every step keeps the room -/

variable [Store σ] {deed : Option Deed} {move : Move}

/-- Only its receivers could close the work queue, and they do not. -/
theorem Effect.work_eq (heffect : before.Effect deed next) :
    next.work.isOpen = before.work.isOpen ∧ next.work.capacity = before.work.capacity := by
  cases heffect with
  | sent _ _ _ _ hoffer => rw [(Queue.offer?_eq_some hoffer).2.2]; exact ⟨rfl, rfl⟩
  | taken _ htake =>
      simp only [setWorker]
      rw [(Queue.take?_eq_some htake).2]
      exact ⟨rfl, rfl⟩
  | _ => exact ⟨rfl, rfl⟩

/-- A device that leaves its place for good takes at most its own entry out of the set. -/
theorem Effect.length_places_le (heffect : before.Effect deed next)
    (hplaces : before.places.length ≤ before.inFlight.size) :
    next.places.length ≤ next.inFlight.size := by
  rcases heffect.places_cases with ⟨hsame, hperm⟩ | ⟨claimed, hclaim, hperm⟩ | ⟨gone, hrelease, hperm⟩
    | ⟨_, _, _, _, _, _, hsame, hperm⟩ | ⟨_, hsame, _, hperm⟩
  · rw [hsame, hperm.length_eq]
    exact hplaces
  · rw [InFlight.size, (InFlight.claim?_eq_some hclaim).2, List.length_append, hperm.length_eq]
    exact Nat.succ_le_succ hplaces
  · have hids : before.inFlight.size - 1 ≤ (before.inFlight.ids.erase gone).length :=
      List.le_length_erase
    have hlength := hperm.length_eq
    rw [List.length_cons] at hlength
    rw [hrelease]
    show next.places.length ≤ (before.inFlight.ids.erase gone).length
    omega
  · have hlength := hperm.length_eq
    rw [List.length_cons, List.length_cons] at hlength
    rw [hsame]
    omega
  · have hlength := hperm.length_eq
    rw [List.length_cons] at hlength
    rw [hsame]
    omega

/-- What the scheduler has in its hand is in flight and not in the queue, so the queue is not full. -/
theorem HasRoom.offer?_ne_none (hroom : before.HasRoom) {device : Device}
    (hhand : before.duty.inHand? = some device) :
    before.work.offer? (device.loaded before.store) ≠ none := by
  intro hoffer
  have hplaces := hroom.places
  have hlimit := hroom.room
  simp only [Pipeline.places, hhand, Option.toList_some, List.map_cons, List.map_nil, List.length_append,
    List.length_cons, List.length_nil, List.length_map] at hplaces
  have hfree : 0 < before.work.room := by
    rw [Queue.room, hroom.capacity]
    omega
  rw [Queue.offer?, hroom.isOpen, Bool.true_and, if_pos (decide_eq_true hfree)] at hoffer
  cases hoffer

theorem HasRoom.sendDevice_eq (hroom : before.HasRoom) {device : Device}
    (hhand : before.duty.inHand? = some device) :
    ∃ work, before.work.offer? (device.loaded before.store) = some work
      ∧ before.sendDevice device = (true, { before with work }) := by
  obtain ⟨work, hoffer⟩ := Option.ne_none_iff_exists'.1 (hroom.offer?_ne_none hhand)
  exact ⟨work, hoffer, sendDevice_of_some hoffer⟩

theorem HasRoom.isSound_of_proceed? (hroom : before.HasRoom) (hstep : before.proceed? = some next) :
    before.IsSound next := by
  obtain ⟨queued, hprogress⟩ := progress_of_proceed? hstep
  cases hprogress with
  | @full budget hduty hfull =>
      have hfree := hroom.room_pos (by rw [hduty]; exact hroom.checking budget hduty)
      omega
  | unlisted hduty hlisted => exact isSound_answer trivial
  | crashed hduty hlisted =>
      refine ⟨fun _ hduty => (by cases hduty), fun _ reply hreply => ?_⟩
      cases hreply
      exact trivial
  | @finished budget admitted due hduty hover => exact isSound_answer (.inr ⟨budget, due, hduty, hover⟩)
  | shed hduty hoffer => exact absurd hoffer (hroom.offer?_ne_none (by rw [hduty]; rfl))
  | unread hduty hfound => exact isSound_answer trivial
  | unknown hduty hfound => exact isSound_answer trivial
  | @passedOverSingle device hduty hclaim =>
      refine isSound_answer (.inr ⟨device, hduty, ?_⟩)
      simpa [InFlight.claim?, InFlight.contains] using hclaim
  | sentSingle hduty hoffer =>
      refine ⟨fun _ hduty => (by cases hduty), fun _ reply hreply => ?_⟩
      cases hreply
      exact trivial
  | shedSingle hduty hoffer => exact absurd hoffer (hroom.offer?_ne_none (by rw [hduty]; rfl))
  | _ => exact isSound_of_isUnderWay rfl

theorem HasRoom.checking_step (hroom : before.HasRoom) (hstep : before.step? move = some next)
    (budget : Nat) (hduty : next.duty = .checkingRoom budget) : 0 < budget := by
  cases move with
  | beginPass => exact (isSound_of_beginPass? hstep).checking budget hduty
  | beginSingle id => exact (isSound_of_beginSingle? hstep).checking budget hduty
  | proceed => exact (hroom.isSound_of_proceed? hstep).checking budget hduty
  | stop =>
      simp only [step?, stop?] at hstep
      split at hstep
      · split at hstep
        · cases hstep
          cases hduty
        · cases hstep
      · cases hstep
  | _ => exact hroom.checking budget ((leavesScheduler_of_step? rfl hstep).duty.symm.trans hduty)

theorem HasRoom.step (hroom : before.HasRoom) (hstep : before.step? move = some next) :
    next.HasRoom where
  isOpen := (effect_of_step? hstep).work_eq.1.trans hroom.isOpen
  capacity := by
    rw [(effect_of_step? hstep).work_eq.2, hroom.capacity, (effect_of_step? hstep).limit_eq]
  places := (effect_of_step? hstep).length_places_le hroom.places
  room := (effect_of_step? hstep).room hroom.room
  checking := hroom.checking_step hstep

def Step.answer? (step : Step σ) : Option Reply :=
  let next := match step.move with
    | .beginPass | .beginSingle _ | .proceed => step.before.step? step.move
    | _ => none
  next.bind fun next => if next.duty = .idle ∨ next.duty.isEnded = true then next.reply else none

theorem HasRoom.justifies (hroom : before.HasRoom) {reply : Reply}
    (hanswer : (Step.mk before move).answer? = some reply) : before.Justifies reply := by
  obtain ⟨next, hstep, hreply⟩ := Option.bind_eq_some_iff.1 hanswer
  split at hreply
  · rename_i hend
    cases move with
    | beginPass => exact (isSound_of_beginPass? hstep).answer hend reply hreply
    | beginSingle id => exact (isSound_of_beginSingle? hstep).answer hend reply hreply
    | proceed => exact (hroom.isSound_of_proceed? hstep).answer hend reply hreply
    | _ => cases hstep
  · cases hreply

/-! ### Whole runs -/

variable {settings : PollerSettings} {store : σ} {now : Instant} {steps : List (Step σ)}
  {pipeline : Pipeline σ}

theorem Run.hasRoom (run : Run (create settings store now) steps pipeline) : pipeline.HasRoom :=
  run.invariant HasRoom (fun _ => True) (hasRoom_create settings store now)
    (fun hroom _ hstep => hroom.step hstep) fun _ _ => trivial

/-- Wherever a run stands, the work queue has room where a pass has found that it may admit something, and it takes the device that the scheduler has in its hand. So no device is refused, a pass goes on until no listed device is left, it may admit no more or the polling is called off, and a single device is turned away only when no device may be admitted or when it is in flight. -/
theorem work_takes_every_device (run : Run (create settings store now) steps pipeline) :
    (∀ budget, pipeline.duty = .checkingRoom budget → 0 < pipeline.work.room)
      ∧ (∀ device, pipeline.duty.inHand? = some device →
        ∃ work, pipeline.work.offer? (device.loaded pipeline.store) = some work
          ∧ pipeline.sendDevice device = (true, { pipeline with work }))
      ∧ ∀ step ∈ steps, ∀ reply, step.answer? = some reply → step.before.Justifies reply := by
  have hroom := run.hasRoom
  refine ⟨fun budget hduty => hroom.room_pos ?_, fun device hhand => hroom.sendDevice_eq hhand,
    fun step hmem reply hanswer => ?_⟩
  · rw [hduty]
    exact hroom.checking budget hduty
  · have hbefore := run.invariant_before HasRoom (hasRoom_create settings store now) HasRoom.step
    exact (hbefore step hmem).justifies hanswer

/-- One device waits in the queue and was turned away when it was asked for again, and the scheduler has another in its hand; the queue has room for just that. -/
theorem work_takes_every_device_sample : ∃ steps pipeline, Run sample steps pipeline
    ∧ pipeline.work.room = 1
    ∧ pipeline.duty.inHand?.map (·.id) = some ⟨2⟩
    ∧ (steps.filterMap Step.answer?).map (·.toOption) = [some (.taken true), some (.taken false)]
    ∧ (∀ budget, pipeline.duty = .checkingRoom budget → 0 < pipeline.work.room)
    ∧ (∀ device, pipeline.duty.inHand? = some device →
      ∃ work, pipeline.work.offer? (device.loaded pipeline.store) = some work
        ∧ pipeline.sendDevice device = (true, { pipeline with work }))
    ∧ ∀ step ∈ steps, ∀ reply, step.answer? = some reply → step.before.Justifies reply := by
  have hrun : (sample.follow? [.beginSingle ⟨1⟩, .proceed, .proceed, .proceed, .beginSingle ⟨1⟩, .proceed,
      .proceed, .beginSingle ⟨2⟩, .proceed, .proceed]).any (fun (steps, pipeline) =>
        decide (pipeline.work.room = 1) && decide (pipeline.duty.inHand?.map (·.id) = some ⟨2⟩)
          && decide ((steps.filterMap Step.answer?).map (·.toOption)
            = [some (.taken true), some (.taken false)])) = true := by
    decide
  obtain ⟨⟨steps, pipeline⟩, hfollow, hlast⟩ := (Option.any_eq_true _ _).1 hrun
  simp only [Bool.and_eq_true, decide_eq_true_eq] at hlast
  obtain ⟨⟨hroom, hhand⟩, hanswers⟩ := hlast
  have run : Run sample steps pipeline := Run.refl.follow hfollow
  exact ⟨steps, pipeline, run, hroom, hhand, hanswers, work_takes_every_device run⟩

end Pipeline

end RouterPoll
