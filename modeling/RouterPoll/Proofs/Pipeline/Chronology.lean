import RouterPoll.Proofs.Pipeline.Due
import RouterPoll.Proofs.Pipeline.Outcome
import RouterPoll.Proofs.Pipeline.Places
import RouterPoll.Proofs.Time.Instant

/-!
# Results in time

The stamps of a result are taken by an adapter or by a worker, and nothing compares those of two results. That the polls of a device follow each other in time rests on there being one at a time. From the beginning of a poll until its result is accepted the device stands with a worker or in the result queue and nowhere else. So when a poll begins, the earlier results of its device have been accepted, and what was accepted was complete before.

Of the adapters it is asked that the stamps of a result were taken while the device was polled, the one of the beginning first.
-/

namespace RouterPoll

/-- The stamps of a result were taken between two times, the beginning before the end. -/
structure PollResult.IsStamped (first last : Instant) (result : PollResult) : Prop where
  began : first ≤ result.startedAt
  ended : result.startedAt ≤ result.completedAt
  done : result.completedAt ≤ last
  ordinary : result.startedAt.IsOrdinary ∧ result.completedAt.IsOrdinary

namespace PollResult

instance (first last : Instant) : DecidablePred (IsStamped first last) := fun result =>
  decidable_of_iff (first ≤ result.startedAt ∧ result.startedAt ≤ result.completedAt
      ∧ result.completedAt ≤ last ∧ result.startedAt.IsOrdinary ∧ result.completedAt.IsOrdinary)
    ⟨fun ⟨began, ended, done, ordinary⟩ => ⟨began, ended, done, ordinary⟩,
      fun ⟨began, ended, done, ordinary⟩ => ⟨began, ended, done, ordinary⟩⟩

theorem IsStamped.mono {first last earlier later : Instant} {result : PollResult}
    (hstamped : result.IsStamped first last) (hearlier : earlier ≤ first) (hlater : last ≤ later) :
    result.IsStamped earlier later :=
  { hstamped with
    began := le_trans hearlier hstamped.began
    done := le_trans hstamped.done hlater }

theorem isStamped_reported {device : Device} {startedAt now : Instant} {error : String}
    {cancelled : Bool} (hstarted : startedAt.IsOrdinary) (hnow : now.IsOrdinary)
    (hle : startedAt ≤ now) : (reported device startedAt now error cancelled).IsStamped startedAt now where
  began := le_refl _
  ended := hle
  done := le_refl _
  ordinary := ⟨hstarted, hnow⟩

end PollResult

theorem FallbackEnd.isStamped_of_toResult? {ending : FallbackEnd} {device : Device}
    {startedAt now : Instant} {result : PollResult} (hstarted : startedAt.IsOrdinary)
    (hnow : now.IsOrdinary) (hle : startedAt ≤ now)
    (hsettled : ∀ answered, ending = .settled (.ok answered) → answered.IsStamped startedAt now)
    (hresult : ending.toResult? device startedAt now = some result) :
    result.IsStamped startedAt now := by
  cases ending with
  | settled answer =>
      cases answer with
      | ok answered =>
          cases hresult
          exact hsettled _ rfl
      | error error =>
          cases error <;> (cases hresult; exact PollResult.isStamped_reported hstarted hnow hle)
  | crashed =>
      cases hresult
      exact PollResult.isStamped_reported hstarted hnow hle
  | stalled => cases hresult

namespace Pipeline

variable {σ : Type} [Store σ]

/-- When the poll that a step settles began, and what it brought back. -/
def Step.settled? (step : Step σ) : Option (Instant × PollResult) :=
  match step.move with
  | .conclude worker (.settled (.ok result)) =>
    match step.before.workers[worker]? with
    | some (.polling _ startedAt) => some (startedAt, result)
    | _ => none
  | _ => none

/-- The clock shows an ordinary time, and a poll that is settled was stamped while it was under way. -/
def Step.IsStamped (step : Step σ) : Prop :=
  step.before.now.IsOrdinary ∧ ∀ poll ∈ step.settled?, poll.2.IsStamped poll.1 step.before.now

instance (step : Step σ) : Decidable step.IsStamped := inferInstanceAs (Decidable (_ ∧ _))

theorem Step.IsStamped.of_conclude {step : Step σ} {worker : Nat} {result : PollResult}
    {device : Device} {startedAt : Instant} (hstamped : step.IsStamped)
    (hdeed : step.deed? = some (.conclude worker result))
    (hphase : step.before.workers[worker]? = some (.polling device startedAt))
    (hstarted : startedAt.IsOrdinary) (hle : startedAt ≤ step.before.now) :
    result.IsStamped startedAt step.before.now := by
  obtain ⟨ending, polled, begunAt, hmove, hpolled, hresult⟩ := Step.conclude_of_deed? hdeed
  rw [hpolled] at hphase
  cases hphase
  refine FallbackEnd.isStamped_of_toResult? hstarted hstamped.1 hle ?_ hresult
  intro answered hended
  subst hended
  exact hstamped.2 (startedAt, answered) (by simp [Step.settled?, hmove, hpolled])

def accepted (steps : List (Step σ)) : List PollResult :=
  (journal steps).filterMap Stage.accepted?

def IsPending (pipeline : Pipeline σ) (result : PollResult) : Prop :=
  .forwarding result ∈ pipeline.workers ∨ result ∈ pipeline.results.items

/-- What every step keeps: the accepted results of a device follow each other, and so does to them whatever poll of it is under way. -/
structure IsChronological (start : Instant) (accepted : List PollResult) (pipeline : Pipeline σ) :
    Prop where
  clock : start ≤ pipeline.now
  ordered : accepted.Pairwise fun result later =>
    result.deviceId = later.deviceId → result.completedAt ≤ later.startedAt
  stamped : ∀ result ∈ accepted, result.IsStamped start pipeline.now
  polling : ∀ device startedAt, .polling device startedAt ∈ pipeline.workers →
    start ≤ startedAt ∧ startedAt ≤ pipeline.now ∧ startedAt.IsOrdinary
      ∧ ∀ result ∈ accepted, result.deviceId = device.id → result.completedAt ≤ startedAt
  pending : ∀ result, pipeline.IsPending result → result.IsStamped start pipeline.now
    ∧ ∀ earlier ∈ accepted, earlier.deviceId = result.deviceId → earlier.completedAt ≤ result.startedAt

omit [Store σ] in
theorem isChronological_create (settings : PollerSettings) (store : σ) (now : Instant) :
    (create settings store now).IsChronological now [] where
  clock := le_refl _
  ordered := List.Pairwise.nil
  stamped _ hmem := by cases hmem
  polling device startedAt hmem := by cases List.eq_of_mem_replicate hmem
  pending result hpending := by
    rcases hpending with hmem | hmem
    · cases List.eq_of_mem_replicate hmem
    · cases hmem

/-! ### Every step keeps the order -/

section

variable {before next : Pipeline σ} {deed : Option Deed}

theorem Effect.polling_cases (heffect : before.Effect deed next) {device : Device}
    {startedAt : Instant} (hmem : .polling device startedAt ∈ next.workers) :
    .polling device startedAt ∈ before.workers ∨ startedAt = before.now := by
  cases heffect with
  | begun hphase =>
      rcases List.mem_or_eq_of_mem_set hmem with hold | hnew
      · exact .inl hold
      · cases hnew
        exact .inr rfl
  | taken | left | dropped | concluded | forwarded | abandoned =>
      rcases List.mem_or_eq_of_mem_set hmem with hold | hnew
      · exact .inl hold
      · cases hnew
  | _ => exact .inl hmem

theorem Effect.pending_cases (heffect : before.Effect deed next) {result : PollResult}
    (hpending : next.IsPending result) : before.IsPending result
      ∨ ∃ worker device startedAt, deed = some (.conclude worker result)
        ∧ before.workers[worker]? = some (.polling device startedAt) := by
  rcases hpending with hmem | hmem
  · cases heffect with
    | concluded hphase hresult =>
        rcases List.mem_or_eq_of_mem_set hmem with hold | hnew
        · exact .inl (.inl hold)
        · cases hnew
          exact .inr ⟨_, _, _, rfl, hphase⟩
    | taken | left | dropped | begun | forwarded | abandoned =>
        rcases List.mem_or_eq_of_mem_set hmem with hold | hnew
        · exact .inl (.inl hold)
        · cases hnew
    | _ => exact .inl (.inl hmem)
  · cases heffect with
    | forwarded hphase hoffer =>
        rw [(Queue.offer?_eq_some hoffer).2.2] at hmem
        rcases List.mem_append.1 hmem with hold | hnew
        · exact .inl (.inr hold)
        · rw [List.mem_singleton.1 hnew]
          exact .inl (.inl (List.mem_of_getElem? hphase))
    | accepted hphase htake =>
        refine .inl (.inr ?_)
        rw [(Queue.take?_eq_some htake).1]
        exact List.mem_cons_of_mem _ hmem
    | _ => exact .inl (.inr hmem)

theorem Effect.accepted_cases (heffect : before.Effect deed next) (calledOff : Bool) :
    (deed.map (Deed.stage calledOff)).bind Stage.accepted? = none
      ∨ ∃ result, (deed.map (Deed.stage calledOff)).bind Stage.accepted? = some result
        ∧ before.processor = .waiting ∧ next.processor = .writing result result.writes
        ∧ before.IsPending result := by
  cases heffect with
  | @accepted result results hphase htake =>
      refine .inr ⟨result, rfl, hphase, rfl, .inr ?_⟩
      rw [(Queue.take?_eq_some htake).1]
      exact List.mem_cons_self
  | _ => exact .inl rfl

omit [Store σ] in
theorem ne_of_nodup_places (hnodup : next.places.Nodup) {result : PollResult} {rest : List StoreUpdate}
    (hprocessor : next.processor = .writing result rest) :
    (∀ device startedAt, .polling device startedAt ∈ next.workers → result.deviceId ≠ device.id)
      ∧ ∀ other, next.IsPending other → result.deviceId ≠ other.deviceId := by
  have hlater := (List.nodup_append.1 (List.nodup_append.1 (List.nodup_append.1 hnodup).2.1).2.1)
  have hprocessed : result.deviceId ∈ next.processor.ids := by
    rw [hprocessor]
    exact List.mem_cons_self
  have hworker (phase : WorkerPhase) (hphase : phase ∈ next.workers) (id : Uuid) (hid : id ∈ phase.ids) :
      result.deviceId ≠ id := fun hsame =>
    hlater.2.2 id (List.mem_flatMap.2 ⟨phase, hphase, hid⟩) result.deviceId
      (List.mem_append_right _ (List.mem_append_left _ hprocessed)) hsame.symm
  refine ⟨fun device startedAt hmem => hworker _ hmem _ List.mem_cons_self, fun other hpending => ?_⟩
  rcases hpending with hmem | hmem
  · exact hworker _ hmem _ List.mem_cons_self
  · intro hsame
    exact (List.nodup_append.1 hlater.2.1).2.2 other.deviceId (List.mem_map_of_mem hmem)
      result.deviceId (List.mem_append_left _ hprocessed) hsame.symm

end

section

variable {start : Instant} {results : List PollResult} {before next : Pipeline σ} {move : Move}

/-- Until a result is accepted nothing changes for those that were. -/
theorem IsChronological.step_under_way (hchronological : before.IsChronological start results)
    (hfaithful : Step.IsFaithful ⟨before, move⟩) (hstamped : Step.IsStamped ⟨before, move⟩)
    (hstep : before.step? move = some next) : next.IsChronological start results where
  clock := le_trans hchronological.clock (effect_of_step? hstep).now_not_before
  ordered := hchronological.ordered
  stamped result hmem := (hchronological.stamped result hmem).mono (le_refl _)
    (effect_of_step? hstep).now_not_before
  polling device startedAt hmem := by
    have hnow : before.now ≤ next.now := (effect_of_step? hstep).now_not_before
    rcases (effect_of_step? hstep).polling_cases hmem with hold | rfl
    · obtain ⟨hfirst, hlast, hrest⟩ := hchronological.polling device startedAt hold
      exact ⟨hfirst, le_trans hlast hnow, hrest⟩
    · exact ⟨hchronological.clock, hnow, hstamped.1,
        fun result hresult _ => (hchronological.stamped result hresult).done⟩
  pending result hpending := by
    have hnow : before.now ≤ next.now := (effect_of_step? hstep).now_not_before
    rcases (effect_of_step? hstep).pending_cases hpending with
      hold | ⟨worker, device, startedAt, hdeed, hphase⟩
    · obtain ⟨hwithin, hearlier⟩ := hchronological.pending result hold
      exact ⟨hwithin.mono (le_refl _) hnow, hearlier⟩
    · obtain ⟨hfirst, hlast, hordinary, hearlier⟩ :=
        hchronological.polling device startedAt (List.mem_of_getElem? hphase)
      have hwithin := hstamped.of_conclude hdeed hphase hordinary hlast
      refine ⟨hwithin.mono hfirst hnow, fun earlier hmem hsame => ?_⟩
      have hdevice := hfaithful.deviceId_eq hdeed hphase
      exact le_trans (hearlier earlier hmem (hsame.trans hdevice)) hwithin.began

omit [Store σ] in
/-- A result that is accepted comes after those of its device, and no other poll of the device is under way. -/
theorem IsChronological.accept {result : PollResult} {rest : List StoreUpdate}
    (hchronological : next.IsChronological start results) (hwithin : result.IsStamped start next.now)
    (hearlier : ∀ earlier ∈ results, earlier.deviceId = result.deviceId →
      earlier.completedAt ≤ result.startedAt)
    (hnodup : next.places.Nodup) (hprocessor : next.processor = .writing result rest) :
    next.IsChronological start (results ++ [result]) where
  clock := hchronological.clock
  ordered := by
    refine List.pairwise_append.2 ⟨hchronological.ordered, List.pairwise_singleton _ _, ?_⟩
    intro earlier hmem later hlater
    rw [List.mem_singleton.1 hlater]
    exact hearlier earlier hmem
  stamped other hmem := by
    rcases List.mem_append.1 hmem with hold | hnew
    · exact hchronological.stamped other hold
    · rw [List.mem_singleton.1 hnew]
      exact hwithin
  polling device startedAt hmem := by
    obtain ⟨hfirst, hlast, hordinary, hbefore⟩ := hchronological.polling device startedAt hmem
    refine ⟨hfirst, hlast, hordinary, fun other hother hsame => ?_⟩
    rcases List.mem_append.1 hother with hold | hnew
    · exact hbefore other hold hsame
    · rw [List.mem_singleton.1 hnew] at hsame
      exact absurd hsame ((ne_of_nodup_places hnodup hprocessor).1 device startedAt hmem)
  pending other hpending := by
    obtain ⟨hother, hbefore⟩ := hchronological.pending other hpending
    refine ⟨hother, fun earlier hmem hsame => ?_⟩
    rcases List.mem_append.1 hmem with hold | hnew
    · exact hbefore earlier hold hsame
    · rw [List.mem_singleton.1 hnew] at hsame
      exact absurd hsame ((ne_of_nodup_places hnodup hprocessor).2 other hpending)

end

/-! ### Runs -/

theorem accepted_snoc (steps : List (Step σ)) (step : Step σ) :
    accepted (steps ++ [step]) = accepted steps ++ (step.stage?.bind Stage.accepted?).toList := by
  rw [accepted, journal_snoc, List.filterMap_append, ← accepted]
  cases step.stage? with
  | none => rfl
  | some stage => cases hstage : stage.accepted? <;> simp [hstage]

/-- The accepted results of a device follow each other in time, in every faithful run whose adapters stamp their results while they poll. -/
theorem Run.isChronological {settings : PollerSettings} {store : σ} {now : Instant}
    {steps : List (Step σ)} {pipeline : Pipeline σ}
    (run : Run (create settings store now) steps pipeline)
    (hfaithful : ∀ step ∈ steps, step.IsFaithful) (hstamped : ∀ step ∈ steps, step.IsStamped) :
    pipeline.IsChronological now (accepted steps) := by
  induction run with
  | refl => exact isChronological_create settings store now
  | @snoc steps before next move run hstep ih =>
      have hbefore := ih (fun step hmem => hfaithful step (List.mem_append_left _ hmem))
        fun step hmem => hstamped step (List.mem_append_left _ hmem)
      have hlast : ⟨before, move⟩ ∈ steps ++ [⟨before, move⟩] :=
        List.mem_append_right _ (List.mem_singleton.2 rfl)
      have hnext := hbefore.step_under_way (hfaithful _ hlast) (hstamped _ hlast) hstep
      have hbalanced := (run.snoc hstep).balanced hfaithful
      rw [accepted_snoc]
      rcases (effect_of_step? hstep).accepted_cases _ with hnone | ⟨result, hsome, _, hprocessor, hpending⟩
      · rw [Step.stage?, Step.deed?, hnone, Option.toList_none, List.append_nil]
        exact hnext
      · obtain ⟨hwithin, hearlier⟩ := hbefore.pending result hpending
        rw [Step.stage?, Step.deed?, hsome]
        exact hnext.accept (hwithin.mono (le_refl _) (effect_of_step? hstep).now_not_before) hearlier
          (hbalanced.perm.nodup_iff.1 hbalanced.nodup) hprocessor

end Pipeline

end RouterPoll
