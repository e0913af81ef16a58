import RouterPoll.Proofs.Pipeline.Jobs
import RouterPoll.Proofs.Pipeline.Processor

/-!
# How a run ends

When all parts have ended, both queues are empty and nobody holds anything: a worker leaves only when the scheduler has ended and the work queue is empty, and the processor only after the last worker. So all jobs of the ledger are closed, and the journal of the run is made up of their stages. What the tally says follows from the results the journal has as accepted.

Waiting comes to an end with that, or as soon as the scheduler turns out to have crashed; some jobs may still be open then.
-/

namespace RouterPoll

/-! ### What is read off the journal -/

def Stage.accepted? : Stage → Option PollResult
  | accepted result => some result
  | _ => none

namespace Pipeline

variable {σ : Type} [Store σ]

section

variable {before next : Pipeline σ} {deed : Option Deed}

theorem Effect.totals (heffect : before.Effect deed next) {journal : List Stage}
    (htotals : before.tally.Totals (journal.filterMap Stage.accepted?)) :
    next.tally.Totals ((journal ++ (deed.map (Deed.stage before.cancelled)).toList).filterMap
      Stage.accepted?) := by
  rw [List.filterMap_append]
  cases heffect with
  | accepted => exact htotals.count _
  | written _ htally =>
      show Tally.Totals _ (_ ++ [])
      rw [List.append_nil]
      rcases htally with rfl | rfl
      · exact htotals
      · exact htotals.countError
  | _ =>
      show Tally.Totals _ (_ ++ [])
      rw [List.append_nil]
      exact htotals

end

theorem Run.totals {settings : PollerSettings} {store : σ} {now : Instant}
    {steps : List (Step σ)} {pipeline : Pipeline σ}
    (run : Run (create settings store now) steps pipeline) :
    pipeline.tally.Totals ((journal steps).filterMap Stage.accepted?) := by
  induction run with
  | refl => exact ⟨rfl, rfl, rfl⟩
  | snoc run hstep ih =>
      rw [journal_snoc]
      exact (effect_of_step? hstep).totals ih

/-! ### What has ended stays empty -/

/-- A worker that has ended left nothing behind and nothing can come after it; the processor is the last to end. -/
structure Drained (pipeline : Pipeline σ) : Prop where
  work : .ended ∈ pipeline.workers → pipeline.duty.isEnded = true ∧ pipeline.work.items = []
  results : pipeline.processor = .ended →
    pipeline.results.items = [] ∧ ∀ phase ∈ pipeline.workers, phase = .ended

theorem Duty.isEnded_of_inHand? {duty : Duty} {device : Device} (hhand : duty.inHand? = some device) :
    duty.isEnded = false := by
  cases duty with
  | ended isClean => cases hhand
  | _ => rfl

section

variable {before next : Pipeline σ} {deed : Option Deed}

omit [Store σ] in
theorem Drained.not_ended_of_phase (hdrained : before.Drained) {worker : Nat} {phase : WorkerPhase}
    (hphase : before.workers[worker]? = some phase) (hbusy : phase ≠ .ended) :
    before.processor ≠ .ended := by
  intro hended
  exact hbusy ((hdrained.results hended).2 phase (List.mem_of_getElem? hphase))

omit [Store σ] in
theorem Drained.setWorker (hdrained : before.Drained) {worker : Nat} {phase : WorkerPhase}
    (new : WorkerPhase) (hphase : before.workers[worker]? = some phase) (hbusy : phase ≠ .ended)
    (hnew : new ≠ .ended) :
    (before.setWorker worker new).Drained where
  work hmem := by
    rcases List.mem_or_eq_of_mem_set hmem with hold | hsame
    · exact hdrained.work hold
    · exact absurd hsame.symm hnew
  results hended := absurd hended (hdrained.not_ended_of_phase hphase hbusy)

theorem Drained.step_of_effect (hdrained : before.Drained) (hopen : before.results.isOpen = true)
    (heffect : before.Effect deed next) : next.Drained := by
  have hbusy (hended : before.duty.isEnded = false) : .ended ∉ before.workers := fun hmem => by
    rw [(hdrained.work hmem).1] at hended
    cases hended
  cases heffect with
  | planned _ _ hended =>
      exact { hdrained with work := fun hmem => absurd hmem (hbusy hended) }
  | claimed _ _ hended =>
      exact { hdrained with work := fun hmem => absurd hmem (hbusy hended) }
  | sent hbefore =>
      have hended := Duty.isEnded_of_inHand? hbefore
      exact { hdrained with work := fun hmem => absurd hmem (hbusy hended) }
  | refused hbefore =>
      have hended := Duty.isEnded_of_inHand? hbefore
      exact { hdrained with work := fun hmem => absurd hmem (hbusy hended) }
  | @taken worker device work hphase htake =>
      have hset := hdrained.setWorker (.holding device) hphase (by simp) (by simp)
      refine { hset with work := fun hmem => ?_ }
      have hempty := (hset.work hmem).2
      have hitems : before.work.items = device :: work.items := (Queue.take?_eq_some htake).1
      rw [show before.work.items = [] from hempty] at hitems
      cases hitems
  | left hphase hempty hended =>
      exact
        { work := fun _ => ⟨hended, hempty⟩
          results := fun hdone => absurd hdone (hdrained.not_ended_of_phase hphase (by simp)) }
  | dropped hphase => exact { hdrained.setWorker .waiting hphase (by simp) (by simp) with }
  | begun hphase => exact hdrained.setWorker _ hphase (by simp) (by simp)
  | concluded hphase => exact hdrained.setWorker _ hphase (by simp) (by simp)
  | forwarded hphase =>
      have hset := hdrained.setWorker .waiting hphase (by simp) (by simp)
      exact
        { work := hset.work
          results := fun hdone => absurd hdone (hdrained.not_ended_of_phase hphase (by simp)) }
  | abandoned _ hclosed => exact absurd hclosed (by rw [hopen]; decide)
  | accepted => exact { hdrained with results := fun hdone => by cases hdone }
  | written => exact { hdrained with results := fun hdone => by cases hdone }
  | released => exact { hdrained with results := fun hdone => by cases hdone }
  | finished _ hempty hended => exact { hdrained with results := fun _ => ⟨hempty, hended⟩ }
  | cancelled => exact { hdrained with }
  | advanced => exact { hdrained with }

end

section

variable {job : Job}

end

/-- The scheduler crashes in a step: it lists the due devices, and one of the due times can not be told. -/
def Step.IsCrash (step : Step σ) : Prop :=
  step.move = .proceed ∧ ∃ budget limit, step.before.duty = .listing budget limit
    ∧ Store.readDue step.before.store (fun _ => step.before.now) step.before.now limit = .overflowed

section

variable {before next : Pipeline σ} {move : Move}

theorem Progress.duty_eq_crashed_iff {queued : Option Device} (hprogress : before.Progress queued next) :
    next.duty = .ended false ↔ Step.IsCrash ⟨before, .proceed⟩ := by
  -- a step of another duty is no crash, and neither is a listing that came to something else
  have hother (hrunning : next.duty ≠ .ended false) (hnot : ¬ Step.IsCrash ⟨before, .proceed⟩) :
      next.duty = .ended false ↔ Step.IsCrash ⟨before, .proceed⟩ :=
    ⟨fun hended => absurd hended hrunning, fun hcrash => absurd hcrash hnot⟩
  cases hprogress with
  | crashed hduty hlisted => exact ⟨fun _ => ⟨rfl, _, _, hduty, hlisted⟩, fun _ => rfl⟩
  | unlisted hduty hlisted =>
      refine hother Duty.noConfusion fun ⟨_, _, _, hsame, hoverflowed⟩ => ?_
      cases hduty.symm.trans hsame
      cases hlisted.symm.trans hoverflowed
  | listed hduty hlisted =>
      refine hother Duty.noConfusion fun ⟨_, _, _, hsame, hoverflowed⟩ => ?_
      cases hduty.symm.trans hsame
      cases hlisted.symm.trans hoverflowed
  | _ hduty =>
      exact hother Duty.noConfusion fun ⟨_, _, _, hsame, _⟩ => nomatch hduty.symm.trans hsame

/-- Whatever the scheduler begins, it begins when it is idle, and it does not crash by that. -/
theorem idle_of_begins (hmove : move.isScheduling = true) (hother : move ≠ .proceed)
    (hstep : before.step? move = some next) : before.duty = .idle ∧ next.duty ≠ .ended false := by
  cases move with
  | beginPass =>
      simp only [step?, beginPass?] at hstep
      split at hstep
      · rename_i hidle
        refine ⟨hidle, ?_⟩
        split at hstep
        · cases hstep
        · split at hstep <;> (cases hstep; exact Duty.noConfusion)
      · cases hstep
  | beginSingle id =>
      simp only [step?, beginSingle?] at hstep
      split at hstep
      · rename_i hidle
        refine ⟨hidle, ?_⟩
        split at hstep
        · cases hstep
        · split at hstep <;> (cases hstep; exact Duty.noConfusion)
      · cases hstep
  | stop =>
      simp only [step?, stop?] at hstep
      split at hstep
      · rename_i hidle
        refine ⟨hidle, ?_⟩
        split at hstep
        · cases hstep
          intro hended
          cases hended
        · cases hstep
      · cases hstep
  | proceed => exact absurd rfl hother
  | _ => cases hmove

/-- The scheduler has crashed after a step if it had before or crashes in it. -/
theorem duty_eq_crashed_iff_of_step? (hstep : before.step? move = some next) :
    next.duty = .ended false ↔ before.duty = .ended false ∨ Step.IsCrash ⟨before, move⟩ := by
  by_cases hproceed : move = .proceed
  · subst hproceed
    obtain ⟨queued, hprogress⟩ := progress_of_proceed? hstep
    rw [hprogress.duty_eq_crashed_iff]
    refine ⟨.inr, ?_⟩
    rintro (hended | hcrash)
    · simp [step?, proceed?, hended] at hstep
    · exact hcrash
  · have hnot : ¬ Step.IsCrash ⟨before, move⟩ := fun hcrash => hproceed hcrash.1
    rw [or_iff_left hnot]
    cases hmove : move.isScheduling with
    | false => rw [(leavesScheduler_of_step? hmove hstep).duty]
    | true =>
        obtain ⟨hidle, hrunning⟩ := idle_of_begins hmove hproceed hstep
        refine iff_of_false hrunning ?_
        rw [hidle]
        exact Duty.noConfusion

omit [Store σ] in
theorem wait_of_isOver (hover : before.isOver = true) (hclean : before.duty ≠ .ended false) :
    before.wait = .returned before.tally := by
  unfold wait
  cases hduty : before.duty with
  | ended isClean =>
      cases isClean with
      | false => exact absurd hduty hclean
      | true => exact if_pos hover
  | _ => simp [isOver, Duty.isEnded, hduty] at hover

omit [Store σ] in
theorem crashed_or_isOver_of_wait (hwait : before.wait ≠ .pending) :
    (before.duty = .ended false ∧ before.wait = .failed)
      ∨ (before.duty ≠ .ended false ∧ before.isOver = true) := by
  unfold wait at hwait ⊢
  split at hwait
  · exact .inl ⟨‹_›, rfl⟩
  · rename_i hclean
    refine .inr ⟨by simp [hclean], ?_⟩
    by_contra hrunning
    exact hwait (if_neg hrunning)
  · exact absurd rfl hwait

theorem Effect.eq_of_isOver {deed : Option Deed} (heffect : before.Effect deed next)
    (hover : before.isOver = true) :
    next.duty = before.duty ∧ next.isOver = true ∧ next.tally = before.tally := by
  have hboth := hover
  simp only [isOver, Bool.and_eq_true, List.all_eq_true, beq_iff_eq] at hboth
  obtain ⟨⟨hduty, hworkers⟩, hprocessor⟩ := hboth
  have hphase {worker : Nat} {phase : WorkerPhase} (hphase : before.workers[worker]? = some phase) :
      phase = .ended := hworkers phase (List.mem_of_getElem? hphase)
  cases heffect with
  | planned _ _ hrunning => cases hduty.symm.trans hrunning
  | claimed _ _ hrunning => cases hduty.symm.trans hrunning
  | sent hbefore => cases hduty.symm.trans (Duty.isEnded_of_inHand? hbefore)
  | refused hbefore => cases hduty.symm.trans (Duty.isEnded_of_inHand? hbefore)
  | taken hwaiting => cases hphase hwaiting
  | left hwaiting => cases hphase hwaiting
  | dropped hholding => cases hphase hholding
  | begun hholding => cases hphase hholding
  | concluded hpolling => cases hphase hpolling
  | forwarded hforwarding => cases hphase hforwarding
  | abandoned hforwarding => cases hphase hforwarding
  | accepted hwaiting => cases hprocessor.symm.trans hwaiting
  | written hwriting => cases hprocessor.symm.trans hwriting
  | released hwriting => cases hprocessor.symm.trans hwriting
  | finished hwaiting => cases hprocessor.symm.trans hwaiting
  | cancelled => exact ⟨rfl, hover, rfl⟩
  | advanced => exact ⟨rfl, hover, rfl⟩

/-- What waiting has come to is final. -/
theorem wait_of_step? (hstep : before.step? move = some next) (hwait : before.wait ≠ .pending) :
    next.wait = before.wait := by
  obtain ⟨hcrashed, hfailed⟩ | ⟨hclean, hover⟩ := crashed_or_isOver_of_wait hwait
  · rw [hfailed, wait, (duty_eq_crashed_iff_of_step? hstep).2 (.inl hcrashed)]
  · obtain ⟨hduty, hnext, htally⟩ := (effect_of_step? hstep).eq_of_isOver hover
    rw [wait_of_isOver hover hclean, wait_of_isOver hnext (hduty ▸ hclean), htally]

end

theorem Run.duty_eq_crashed_iff {settings : PollerSettings} {store : σ} {now : Instant}
    {steps : List (Step σ)} {pipeline : Pipeline σ}
    (run : Run (create settings store now) steps pipeline) :
    pipeline.duty = .ended false ↔ ∃ step ∈ steps, step.IsCrash := by
  induction run with
  | refl => exact ⟨(nomatch ·), fun ⟨_, hmem, _⟩ => nomatch hmem⟩
  | snoc run hstep ih =>
      rw [duty_eq_crashed_iff_of_step? hstep, ih]
      simp only [List.mem_append, List.mem_singleton, or_and_right, exists_or, exists_eq_left]

end Pipeline

end RouterPoll
