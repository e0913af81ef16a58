import RouterPoll.Proofs.Pipeline.Run

/-!
# Where the devices in flight are

A device that is in flight stands in one place: in the scheduler's hand, in the work queue, with a worker, in the result queue, with the processor, or among the devices whose jobs were dropped. The set of devices in flight is written by the scheduler and by the processor, which do not know of each other; that it agrees with the places is what every move keeps.

The places are compared with the set by counting how often an id stands in either. A worker's place is found by its position, and `count_flatMap_set` says what changing one phase does to the count.
-/

namespace RouterPoll

theorem count_flatten_set {β : Type} [BEq β] {lists : List (List β)} {position : Nat}
    {old : List β} (new : List β) (hold : lists[position]? = some old) (x : β) :
    (lists.set position new).flatten.count x + old.count x
      = lists.flatten.count x + new.count x := by
  induction lists generalizing position with
  | nil => cases hold
  | cons list lists ih =>
      cases position with
      | zero =>
          cases hold
          simp only [List.set_cons_zero, List.flatten_cons, List.count_append]
          omega
      | succ position =>
          have htail := ih hold
          simp only [List.set_cons_succ, List.flatten_cons, List.count_append]
          omega

theorem count_flatMap_set {α β : Type} [BEq β] (places : α → List β) {phases : List α}
    {position : Nat} {old : α} (new : α) (hold : phases[position]? = some old) (x : β) :
    ((phases.set position new).flatMap places).count x + (places old).count x
      = (phases.flatMap places).count x + (places new).count x := by
  have hplace : (phases.map places)[position]? = some (places old) := by
    rw [List.getElem?_map, hold]
    rfl
  rw [List.flatMap_def, List.flatMap_def, List.map_set]
  exact count_flatten_set (places new) hplace x

def WorkerPhase.ids : WorkerPhase → List Uuid
  | holding device => [device.id]
  | polling device _ => [device.id]
  | forwarding result => [result.deviceId]
  | _ => []

@[simp] theorem WorkerPhase.ids_waiting : waiting.ids = [] := rfl

@[simp] theorem WorkerPhase.ids_holding (device : Device) : (holding device).ids = [device.id] := rfl

@[simp] theorem WorkerPhase.ids_polling (device : Device) (startedAt : Instant) :
    (polling device startedAt).ids = [device.id] := rfl

@[simp] theorem WorkerPhase.ids_forwarding (result : PollResult) :
    (forwarding result).ids = [result.deviceId] := rfl

@[simp] theorem WorkerPhase.ids_ended : ended.ids = [] := rfl

def WorkerPhase.polled : WorkerPhase → List Uuid
  | polling device _ => [device.id]
  | _ => []

theorem WorkerPhase.polled_sublist_ids (phase : WorkerPhase) : phase.polled.Sublist phase.ids := by
  cases phase <;> simp [WorkerPhase.polled]

theorem WorkerPhase.length_polled_le (phase : WorkerPhase) : phase.polled.length ≤ 1 := by
  cases phase <;> simp [WorkerPhase.polled]

def ProcessorPhase.ids : ProcessorPhase → List Uuid
  | writing result _ => [result.deviceId]
  | _ => []

namespace Pipeline

variable {σ : Type} [Store σ]

/-- The devices whose poll is under way, place by place, and the devices whose jobs were dropped. -/
def places (pipeline : Pipeline σ) : List Uuid :=
  pipeline.duty.inHand?.toList.map (·.id) ++ (pipeline.work.items.map (·.id)
    ++ (pipeline.workers.flatMap WorkerPhase.ids ++ (pipeline.results.items.map (·.deviceId)
      ++ (pipeline.processor.ids ++ pipeline.dropped))))

def polledIds (pipeline : Pipeline σ) : List Uuid := pipeline.workers.flatMap WorkerPhase.polled

theorem Step.conclude_of_deed? {step : Step σ} {worker : Nat} {result : PollResult}
    (hdeed : step.deed? = some (.conclude worker result)) : ∃ ending device startedAt,
      step.move = .conclude worker ending
        ∧ step.before.workers[worker]? = some (.polling device startedAt)
        ∧ ending.toResult? device startedAt step.before.now = some result := by
  obtain ⟨before, move⟩ := step
  cases move with
  | conclude position ending =>
      simp only [Step.deed?, Pipeline.deed?] at hdeed
      split at hdeed
      · rename_i device startedAt hphase
        obtain ⟨_, hresult, hsame⟩ := Option.map_eq_some_iff.1 hdeed
        cases hsame
        exact ⟨ending, device, startedAt, rfl, hphase, hresult⟩
      · cases hdeed
  | proceed =>
      simp only [Step.deed?, Pipeline.deed?] at hdeed
      split at hdeed
      · split at hdeed <;> cases hdeed
      · cases hdeed
  | consider position =>
      simp only [Step.deed?, Pipeline.deed?] at hdeed
      split at hdeed <;> cases hdeed
  | forward position =>
      simp only [Step.deed?, Pipeline.deed?] at hdeed
      split at hdeed <;> cases hdeed
  | accept =>
      obtain ⟨_, _, hsame⟩ := Option.map_eq_some_iff.1 hdeed
      cases hsame
  | write =>
      simp only [Step.deed?, Pipeline.deed?] at hdeed
      split at hdeed <;> cases hdeed
  | _ => cases hdeed

theorem Step.IsFaithful.deviceId_eq {step : Step σ} {worker : Nat} {result : PollResult}
    {device : Device} {startedAt : Instant} (hfaithful : step.IsFaithful)
    (hdeed : step.deed? = some (.conclude worker result))
    (hphase : step.before.workers[worker]? = some (.polling device startedAt)) :
    result.deviceId = device.id := by
  obtain ⟨ending, polled, begunAt, hmove, hpolled, hresult⟩ := Step.conclude_of_deed? hdeed
  rw [hpolled] at hphase
  cases hphase
  exact (hfaithful (device, ending) (by simp [Step.conclusion?, hmove, hpolled])).deviceId_eq hresult

/-- What every step of a faithful run keeps: the set of devices in flight agrees with the places, and what the scheduler may still admit is within the limit. -/
structure Balanced (pipeline : Pipeline σ) : Prop where
  counts : ∀ id, pipeline.inFlight.ids.count id = pipeline.places.count id
  nodup : pipeline.inFlight.ids.Nodup
  room : pipeline.inFlight.size + pipeline.duty.allowance ≤ pipeline.limit
  takesResults : pipeline.results.isOpen = true
  dropped : pipeline.cancelled = false → pipeline.dropped = []

omit [Store σ] in
theorem Balanced.perm {pipeline : Pipeline σ} (hbalanced : pipeline.Balanced) :
    pipeline.inFlight.ids.Perm pipeline.places :=
  List.perm_iff_count.2 hbalanced.counts

omit [Store σ] in
theorem balanced_create (settings : PollerSettings) (store : σ) (now : Instant) :
    (create settings store now).Balanced where
  counts id := by
    have hworkers : (List.replicate (max settings.workerCount 1) WorkerPhase.waiting).flatMap WorkerPhase.ids
        = [] := List.flatMap_eq_nil_iff.2 fun phase hmem => by
      rw [List.eq_of_mem_replicate hmem]
      rfl
    simp only [places, create, InFlight.empty, Queue.ofCapacity, hworkers]
    rfl
  nodup := List.nodup_nil
  room := Nat.zero_le _
  takesResults := rfl
  dropped _ := rfl

/-! ### Every step keeps the balance -/

section

variable {before next : Pipeline σ} {deed : Option Deed}

theorem Effect.isOpen_results (heffect : before.Effect deed next) :
    next.results.isOpen = before.results.isOpen := by
  cases heffect with
  | forwarded _ hoffer => rw [(Queue.offer?_eq_some hoffer).2.2]; rfl
  | accepted _ htake => rw [(Queue.take?_eq_some htake).2]
  | _ => rfl

theorem Effect.nodup_inFlight (heffect : before.Effect deed next)
    (hnodup : before.inFlight.ids.Nodup) : next.inFlight.ids.Nodup := by
  cases heffect with
  | claimed _ _ _ _ _ hclaim =>
      obtain ⟨hfresh, hids⟩ := InFlight.claim?_eq_some hclaim
      show List.Nodup _
      rw [hids, List.nodup_append]
      refine ⟨hnodup, List.nodup_cons.2 ⟨List.not_mem_nil, List.nodup_nil⟩, ?_⟩
      intro id hmem other hother hsame
      rw [List.mem_singleton.1 hother] at hsame
      exact hfresh (hsame ▸ hmem)
  | refused => exact hnodup.erase _
  | released => exact hnodup.erase _
  | _ => exact hnodup

/-- The scheduler never admits more than the limit, because only it adds to the set and every admission uses up a part of what it may admit. -/
theorem Effect.room (heffect : before.Effect deed next)
    (hroom : before.inFlight.size + before.duty.allowance ≤ before.limit) :
    next.inFlight.size + next.duty.allowance ≤ next.limit := by
  have hrelease (id : Uuid) : (before.inFlight.release id).size ≤ before.inFlight.size :=
    List.length_erase_le
  cases heffect with
  | planned _ _ _ hallowance =>
      simp only [budget, Admission.budget] at hallowance ⊢
      omega
  | claimed _ _ _ hallowance _ hclaim =>
      have hids := (InFlight.claim?_eq_some hclaim).2
      simp only [InFlight.size, hids, List.length_append, List.length_singleton] at hroom ⊢
      omega
  | sent _ _ hallowance _ _ =>
      simp only at hallowance ⊢
      omega
  | @refused device =>
      have hsize := hrelease device.id
      simp only [Duty.allowance]
      omega
  | @released result =>
      have hsize := hrelease result.deviceId
      simp only
      omega
  | _ => exact hroom

/-- What a move does to the places and to the set of devices in flight. A device goes from one place to another; one is admitted; one is released where it leaves its place for good; a worker concludes with a result, which may be about another device; or a worker gives its result up, as nobody takes it. -/
theorem Effect.places_cases (heffect : before.Effect deed next) :
    (next.inFlight = before.inFlight ∧ next.places.Perm before.places)
      ∨ (∃ id, before.inFlight.claim? id = some next.inFlight ∧ next.places.Perm (id :: before.places))
      ∨ (∃ id, next.inFlight = before.inFlight.release id ∧ before.places.Perm (id :: next.places))
      ∨ (∃ worker result device startedAt, deed = some (.conclude worker result)
        ∧ before.workers[worker]? = some (.polling device startedAt)
        ∧ next.inFlight = before.inFlight
        ∧ (device.id :: next.places).Perm (result.deviceId :: before.places))
      ∨ (before.results.isOpen = false ∧ next.inFlight = before.inFlight
        ∧ ∃ id, before.places.Perm (id :: next.places)) := by
  simp only [List.perm_iff_count]
  cases heffect with
  | planned hbefore hafter =>
      refine .inl ⟨rfl, fun id => ?_⟩
      simp only [places, hbefore, hafter]
  | @claimed device duty inFlight hbefore hafter _ _ _ hclaim =>
      refine .inr (.inl ⟨device.id, hclaim, fun id => ?_⟩)
      simp only [places, hbefore, hafter, Option.toList_none, Option.toList_some, List.map_nil,
        List.map_cons, List.nil_append, List.cons_append]
  | sent hbefore hafter _ _ hoffer =>
      refine .inl ⟨rfl, fun id => ?_⟩
      simp only [places, hbefore, hafter, (Queue.offer?_eq_some hoffer).2.2, Option.toList_none,
        Option.toList_some, List.map_nil, List.map_cons, List.map_append, List.count_append,
        List.count_nil, Device.loaded_id]
      omega
  | @refused device _ hbefore =>
      refine .inr (.inr (.inl ⟨device.id, rfl, fun id => ?_⟩))
      have hidle : Duty.inHand? .idle = none := rfl
      simp only [places, hbefore, hidle, Option.toList_none, Option.toList_some, List.map_nil,
        List.map_cons, List.nil_append, List.cons_append]
  | @taken worker device work hphase htake =>
      refine .inl ⟨rfl, fun id => ?_⟩
      have hset := count_flatMap_set WorkerPhase.ids (.holding device) hphase id
      simp only [places, setWorker, (Queue.take?_eq_some htake).1, List.map_cons, List.count_append,
        List.count_cons, List.count_nil, WorkerPhase.ids_waiting, WorkerPhase.ids_holding] at hset ⊢
      omega
  | left hphase =>
      refine .inl ⟨rfl, fun id => ?_⟩
      have hset := count_flatMap_set WorkerPhase.ids .ended hphase id
      simp only [places, setWorker, List.count_append, WorkerPhase.ids_waiting,
        WorkerPhase.ids_ended] at hset ⊢
      omega
  | dropped hphase =>
      refine .inl ⟨rfl, fun id => ?_⟩
      have hset := count_flatMap_set WorkerPhase.ids .waiting hphase id
      simp only [places, setWorker, List.count_append, List.count_cons, List.count_nil,
        WorkerPhase.ids_waiting, WorkerPhase.ids_holding] at hset ⊢
      omega
  | @begun worker device hphase =>
      refine .inl ⟨rfl, fun id => ?_⟩
      have hset := count_flatMap_set WorkerPhase.ids (.polling device before.now) hphase id
      simp only [places, setWorker, List.count_append, WorkerPhase.ids_holding,
        WorkerPhase.ids_polling] at hset ⊢
      omega
  | @concluded worker device startedAt ending result hphase =>
      refine .inr (.inr (.inr (.inl ⟨worker, result, device, startedAt, rfl, hphase, rfl, fun id => ?_⟩)))
      have hset := count_flatMap_set WorkerPhase.ids (.forwarding result) hphase id
      simp only [places, setWorker, List.count_append, List.count_cons, List.count_nil,
        WorkerPhase.ids_polling, WorkerPhase.ids_forwarding] at hset ⊢
      omega
  | forwarded hphase hoffer =>
      refine .inl ⟨rfl, fun id => ?_⟩
      have hset := count_flatMap_set WorkerPhase.ids .waiting hphase id
      simp only [places, setWorker, (Queue.offer?_eq_some hoffer).2.2, List.map_append,
        List.map_cons, List.map_nil, List.count_append, List.count_nil, WorkerPhase.ids_waiting,
        WorkerPhase.ids_forwarding] at hset ⊢
      omega
  | @abandoned worker result hphase hclosed =>
      refine .inr (.inr (.inr (.inr ⟨hclosed, rfl, result.deviceId, fun id => ?_⟩)))
      have hset := count_flatMap_set WorkerPhase.ids .ended hphase id
      simp only [places, setWorker, List.count_append, List.count_cons, List.count_nil,
        WorkerPhase.ids_forwarding, WorkerPhase.ids_ended] at hset ⊢
      omega
  | accepted hphase htake =>
      refine .inl ⟨rfl, fun id => ?_⟩
      simp only [places, hphase, (Queue.take?_eq_some htake).1, ProcessorPhase.ids, List.map_cons,
        List.count_append, List.count_cons, List.count_nil]
      omega
  | written hphase =>
      refine .inl ⟨rfl, fun id => ?_⟩
      simp only [places, hphase, ProcessorPhase.ids]
  | @released result hphase =>
      refine .inr (.inr (.inl ⟨result.deviceId, rfl, fun id => ?_⟩))
      simp only [places, hphase, ProcessorPhase.ids, List.count_append, List.count_cons,
        List.count_nil]
      omega
  | finished hphase =>
      refine .inl ⟨rfl, fun id => ?_⟩
      simp only [places, hphase, ProcessorPhase.ids]
  | cancelled => exact .inl ⟨rfl, fun _ => rfl⟩
  | advanced => exact .inl ⟨rfl, fun _ => rfl⟩

theorem Effect.counts (heffect : before.Effect deed next)
    (hopen : before.results.isOpen = true)
    (hconclude : ∀ worker result device startedAt, deed = some (.conclude worker result) →
      before.workers[worker]? = some (.polling device startedAt) → result.deviceId = device.id)
    (hcounts : ∀ id, before.inFlight.ids.count id = before.places.count id) (id : Uuid) :
    next.inFlight.ids.count id = next.places.count id := by
  have hid := hcounts id
  rcases heffect.places_cases with ⟨hsame, hperm⟩ | ⟨claimed, hclaim, hperm⟩ | ⟨gone, hrelease, hperm⟩
    | ⟨worker, result, device, startedAt, hdeed, hphase, hsame, hperm⟩ | ⟨hclosed, _⟩
  · rw [hsame, hid, hperm.count_eq]
  · rw [(InFlight.claim?_eq_some hclaim).2, List.count_append, hid, hperm.count_eq,
      List.count_singleton, List.count_cons]
  · rw [hrelease, InFlight.release, List.count_erase, hid, hperm.count_eq, List.count_cons]
    simp only [Nat.add_sub_cancel]
  · rw [hconclude worker result device startedAt hdeed hphase, List.perm_cons] at hperm
    rw [hsame, hid, hperm.count_eq]
  · exact absurd hclosed (by rw [hopen]; decide)

theorem Effect.dropped_eq (heffect : before.Effect deed next)
    (hdropped : before.cancelled = false → before.dropped = []) (hgoes : next.cancelled = false) :
    next.dropped = [] := by
  cases heffect with
  | dropped _ hcancelled => exact absurd (hcancelled.symm.trans hgoes) (by decide)
  | cancelled => cases hgoes
  | _ => exact hdropped hgoes

end

theorem Balanced.step {before next : Pipeline σ} {move : Move} (hbalanced : before.Balanced)
    (hfaithful : Step.IsFaithful ⟨before, move⟩) (hstep : before.step? move = some next) :
    next.Balanced where
  counts := (effect_of_step? hstep).counts hbalanced.takesResults
    (fun _ _ _ _ hdeed hphase => hfaithful.deviceId_eq hdeed hphase) hbalanced.counts
  nodup := (effect_of_step? hstep).nodup_inFlight hbalanced.nodup
  room := (effect_of_step? hstep).room hbalanced.room
  takesResults := (effect_of_step? hstep).isOpen_results.trans hbalanced.takesResults
  dropped := (effect_of_step? hstep).dropped_eq hbalanced.dropped

theorem Run.balanced {settings : PollerSettings} {store : σ} {now : Instant}
    {steps : List (Step σ)} {pipeline : Pipeline σ}
    (run : Run (create settings store now) steps pipeline)
    (hfaithful : ∀ step ∈ steps, step.IsFaithful) : pipeline.Balanced :=
  run.invariant Balanced Step.IsFaithful (balanced_create settings store now) Balanced.step hfaithful

/-! ### The workers and the limit do not change -/

theorem Effect.limit_eq {before next : Pipeline σ} {deed : Option Deed}
    (heffect : before.Effect deed next) : next.limit = before.limit := by
  cases heffect <;> rfl

theorem Effect.length_workers {before next : Pipeline σ} {deed : Option Deed}
    (heffect : before.Effect deed next) : next.workers.length = before.workers.length := by
  cases heffect <;> first | rfl | exact List.length_set

theorem Run.limit_eq {start pipeline : Pipeline σ} {steps : List (Step σ)}
    (run : Run start steps pipeline) : pipeline.limit = start.limit :=
  run.invariant (·.limit = start.limit) (fun _ => True) rfl
    (fun hbefore _ hstep => (effect_of_step? hstep).limit_eq.trans hbefore) fun _ _ => trivial

theorem Run.length_workers {start pipeline : Pipeline σ} {steps : List (Step σ)}
    (run : Run start steps pipeline) : pipeline.workers.length = start.workers.length :=
  run.invariant (·.workers.length = start.workers.length) (fun _ => True) rfl
    (fun hbefore _ hstep => (effect_of_step? hstep).length_workers.trans hbefore) fun _ _ => trivial

/-! ### One place for each device -/

omit [Store σ] in
theorem polledIds_sublist_places (pipeline : Pipeline σ) : pipeline.polledIds.Sublist pipeline.places := by
  have hworkers : pipeline.polledIds.Sublist (pipeline.workers.flatMap WorkerPhase.ids) := by
    unfold polledIds
    induction pipeline.workers with
    | nil => exact List.Sublist.slnil
    | cons phase phases ih => exact phase.polled_sublist_ids.append ih
  have hrest := hworkers.trans (List.sublist_append_left _ (pipeline.results.items.map (·.deviceId)
    ++ (pipeline.processor.ids ++ pipeline.dropped)))
  exact (hrest.trans (List.sublist_append_right _ _)).trans (List.sublist_append_right _ _)

omit [Store σ] in
theorem length_polledIds_le (pipeline : Pipeline σ) :
    pipeline.polledIds.length ≤ pipeline.workers.length := by
  unfold polledIds
  induction pipeline.workers with
  | nil => exact Nat.le_refl 0
  | cons phase phases ih =>
      rw [List.flatMap_cons, List.length_append, List.length_cons]
      have hphase := phase.length_polled_le
      omega

/-- Wherever a faithful run stands, the devices in flight are those in some place, each of them in one place and once; dropped jobs appear only after the polling was called off. So there are never more of them than may be in flight, no device is polled twice at once, and no more polls are under way than workers or devices in flight are allowed. -/
theorem inFlight_perm_places {settings : PollerSettings} {store : σ} {now : Instant}
    {steps : List (Step σ)} {pipeline : Pipeline σ}
    (run : Run (create settings store now) steps pipeline)
    (hfaithful : ∀ step ∈ steps, step.IsFaithful) :
    pipeline.inFlight.ids.Perm pipeline.places
      ∧ pipeline.places.Nodup
      ∧ (pipeline.cancelled = false → pipeline.dropped = [])
      ∧ pipeline.inFlight.size ≤ settings.admissionLimit
      ∧ pipeline.polledIds.Nodup
      ∧ pipeline.polledIds.length ≤ min (max settings.workerCount 1) settings.admissionLimit := by
  have hbalanced := run.balanced hfaithful
  have hlimit : pipeline.limit = settings.admissionLimit := run.limit_eq
  have hworkers : pipeline.workers.length = max settings.workerCount 1 :=
    run.length_workers.trans List.length_replicate
  have hperm := hbalanced.perm
  have hnodup : pipeline.places.Nodup := hperm.nodup_iff.1 hbalanced.nodup
  have hsize : pipeline.inFlight.size ≤ settings.admissionLimit := by
    rw [← hlimit]
    exact Nat.le_trans (Nat.le_add_right _ _) hbalanced.room
  have hpolled := pipeline.polledIds_sublist_places
  have hsome : pipeline.polledIds.length ≤ pipeline.inFlight.size := by
    rw [InFlight.size, hperm.length_eq]
    exact hpolled.length_le
  have hall := pipeline.length_polledIds_le
  refine ⟨hperm, hnodup, hbalanced.dropped, hsize, hpolled.nodup hnodup, ?_⟩
  omega

/-- While the result of one device is written and the job of the other was dropped, both are in flight. -/
theorem inFlight_perm_places_sample : ∃ steps pipeline,
    Run sample steps pipeline ∧ (∀ step ∈ steps, step.IsFaithful)
      ∧ pipeline.processor.ids = [⟨1⟩] ∧ pipeline.dropped = [⟨2⟩]
      ∧ (pipeline.inFlight.ids.Perm pipeline.places
        ∧ pipeline.places.Nodup
        ∧ (pipeline.cancelled = false → pipeline.dropped = [])
        ∧ pipeline.inFlight.size ≤ 2
        ∧ pipeline.polledIds.Nodup
        ∧ pipeline.polledIds.length ≤ 2) := by
  have hrun : (sample.follow? sampleMoves).any (fun (steps, pipeline) =>
      decide (∀ step ∈ steps, step.IsFaithful) && decide (pipeline.processor.ids = [⟨1⟩])
        && decide (pipeline.dropped = [⟨2⟩])) = true := by decide
  obtain ⟨⟨steps, pipeline⟩, hfollow, hlast⟩ := (Option.any_eq_true _ _).1 hrun
  simp only [Bool.and_eq_true, decide_eq_true_eq] at hlast
  obtain ⟨⟨hfaithful, hprocessor⟩, hdropped⟩ := hlast
  have run : Run sample steps pipeline := Run.refl.follow hfollow
  exact ⟨steps, pipeline, run, hfaithful, hprocessor, hdropped, inFlight_perm_places run hfaithful⟩

end Pipeline

end RouterPoll
