import RouterPoll.Proofs.Pipeline.Admission
import RouterPoll.Proofs.Pipeline.Due

/-!
# A pass among other moves

A pass takes many moves of the scheduler, and the other parts move in between. As long as they take nothing out of the work queue and release no device, and nobody calls the polling off, the pass ends as if it were done at once on the store and at the time of its listing. What is kept through such a run is the outlook: how the pass will end from here.
-/

namespace RouterPoll

namespace Admission

variable {σ : Type} [Store σ]

/-- The end of a pass that has admitted some devices already and visits more. -/
def afterVisit (admitted : Nat) (visited : Nat × Admission) : Reply × Admission :=
  (.ok (.admitted (admitted + visited.1)), visited.2)

def afterListing (store : σ) (budget : Nat) (admission : Admission) : Listing → Reply × Admission
  | .refused error => (.error (.listing error), admission)
  | .overflowed => (.error .crashed, admission)
  | .listed devices => afterVisit 0 (visit store devices budget admission)

def afterSending (store : σ) (device : Device) (budget admitted : Nat) (due : List Device)
    (admission : Admission) : Reply × Admission :=
  match admission.send (device.loaded store) with
  | (true, admission) => afterVisit (admitted + 1) (visit store due (budget - (admitted + 1)) admission)
  | (false, admission) => (.ok (.admitted admitted), admission)

theorem pass_eq_afterListing (store : σ) (now : Instant) (limit : Nat) (admission : Admission) :
    pass store now limit admission =
      if budget limit admission.inFlight == 0 || admission.queue.room == 0 then
        (.ok (.admitted 0), admission)
      else afterListing store (budget limit admission.inFlight) admission
        (Store.readDue store (fun _ => now) now (budget limit admission.inFlight + admission.inFlight.size)) := by
  unfold pass
  simp only
  split
  · rfl
  · cases Store.readDue store (fun _ => now) now (budget limit admission.inFlight + admission.inFlight.size) with
    | refused error => rfl
    | overflowed => rfl
    | listed devices =>
        simp only [afterListing, afterVisit, Nat.zero_add]

theorem visit_of_claimed {store : σ} {device : Device} {due : List Device} {budget : Nat}
    {admission : Admission} (hclaim : admission.inFlight.claim? device.id = none) :
    visit store (device :: due) budget admission = visit store due budget admission := by
  cases budget with
  | zero => cases due <;> rfl
  | succ budget => rw [visit, hclaim]

theorem afterVisit_cons {store : σ} {device : Device} {due : List Device} {budget admitted : Nat}
    {admission : Admission} {inFlight : InFlight} (hbudget : admitted < budget)
    (hclaim : admission.inFlight.claim? device.id = some inFlight) :
    afterVisit admitted (visit store (device :: due) (budget - admitted) admission)
      = afterSending store device budget admitted due { admission with inFlight } := by
  obtain ⟨rest, hrest⟩ := Nat.exists_eq_succ_of_ne_zero (show budget - admitted ≠ 0 by omega)
  have hless : budget - (admitted + 1) = rest := by omega
  rw [hrest, visit, hclaim, afterSending, hless]
  simp only
  cases send { admission with inFlight } (device.loaded store) with
  | mk isTaken sent =>
      cases isTaken with
      | false => rfl
      | true =>
          simp only [afterVisit]
          rw [Nat.add_assoc, Nat.add_comm 1]

end Admission

namespace Duty

def isListed : Duty → Bool
  | visiting _ _ _ => true
  | sending _ _ _ _ => true
  | _ => false

end Duty

def Move.isProceed : Move → Bool
  | .proceed => true
  | _ => false

/-- A move that takes nothing out of the work queue, releases no device and does not call the polling off. -/
def Move.isQuiet : Move → Bool
  | .take _ => false
  | .release => false
  | .cancel => false
  | _ => true

namespace Pipeline

variable {σ : Type} [Store σ] {store : σ} {now : Instant} {pipeline next : Pipeline σ}

/-- In this step the scheduler asks the store for its list. -/
def Step.isAsking (step : Step σ) : Bool := step.isListing && step.move.isProceed

def admission (pipeline : Pipeline σ) : Admission := ⟨pipeline.inFlight, pipeline.work⟩

/-- How the pass that the scheduler is at will end, if its list is that of a store and a time and nothing is in its way. -/
def outlook (store : σ) (now : Instant) (pipeline : Pipeline σ) : Option (Reply × Admission) :=
  let admission := pipeline.admission
  match pipeline.duty with
  | .checkingRoom budget =>
    some (if pipeline.work.room == 0 then (.ok (.admitted 0), admission)
      else Admission.afterListing store budget admission
        (Store.readDue store (fun _ => now) now (budget + pipeline.inFlight.size)))
  | .sizing budget =>
    some (Admission.afterListing store budget admission
      (Store.readDue store (fun _ => now) now (budget + pipeline.inFlight.size)))
  | .listing budget limit =>
    some (Admission.afterListing store budget admission (Store.readDue store (fun _ => now) now limit))
  | .visiting budget admitted due =>
    some (Admission.afterVisit admitted (Admission.visit store due (budget - admitted) admission))
  | .sending device budget admitted due =>
    some (Admission.afterSending store device budget admitted due admission)
  | .idle => pipeline.reply.map (·, admission)
  | .ended _ => pipeline.reply.map (·, admission)
  | _ => none

/-- What is kept while a pass is on its way to an end. -/
structure IsOnCourse (store : σ) (now : Instant) (goal : Reply × Admission) (pipeline : Pipeline σ) :
    Prop where
  cancelled : pipeline.cancelled = false
  loaded : pipeline.duty.isListed = true →
    ∀ device : Device, device.loaded pipeline.store = device.loaded store
  outlook : pipeline.outlook store now = some goal

variable {goal : Reply × Admission}

theorem isOnCourse_begin (hbegin : pipeline.step? .beginPass = some next) :
    next.IsOnCourse store now (Admission.pass store now pipeline.limit pipeline.admission) := by
  simp only [step?, beginPass?] at hbegin
  split at hbegin
  · split at hbegin
    · cases hbegin
    · rename_i hcancelled
      have hrunning : pipeline.cancelled = false := Bool.not_eq_true _ ▸ hcancelled
      rw [Admission.pass_eq_afterListing]
      have hbudget : Admission.budget pipeline.limit pipeline.admission.inFlight = pipeline.budget := rfl
      rw [hbudget]
      split at hbegin
      · rename_i hnone
        cases hbegin
        rw [hnone]
        exact ⟨hrunning, (fun hlisted => by cases hlisted), rfl⟩
      · rename_i hsome
        cases hbegin
        rw [Bool.eq_false_iff.2 hsome, Bool.false_or]
        exact ⟨hrunning, (fun hlisted => by cases hlisted), rfl⟩
  · cases hbegin

theorem IsOnCourse.answer (hcancelled : pipeline.cancelled = false) {reply : Reply}
    (hgoal : (reply, pipeline.admission) = goal) : (pipeline.answer reply).IsOnCourse store now goal where
  cancelled := hcancelled
  loaded hlisted := by cases hlisted
  outlook := congrArg some hgoal

theorem IsOnCourse.proceed (hcourse : pipeline.IsOnCourse store now goal)
    (hasked : (Step.mk pipeline .proceed).isAsking = true → pipeline.store = store ∧ pipeline.now = now)
    (hstep : pipeline.step? .proceed = some next) : next.IsOnCourse store now goal := by
  obtain ⟨hcancelled, hloaded, houtlook⟩ := hcourse
  obtain ⟨queued, hprogress⟩ := progress_of_proceed? hstep
  have hasks {budget limit : Nat} (hduty : pipeline.duty = .listing budget limit) :
      pipeline.store = store ∧ pipeline.now = now :=
    hasked (by simp only [Step.isAsking, Step.isListing, hduty, Move.isProceed, Bool.and_self])
  unfold Pipeline.outlook at houtlook
  cases hprogress with
  | full hduty hfull =>
      simp only [hduty, hfull, beq_self_eq_true, if_true] at houtlook
      exact .answer hcancelled (Option.some.inj houtlook)
  | roomy hduty hroom =>
      simp only [hduty, beq_iff_eq, Nat.ne_of_gt hroom, if_false] at houtlook
      exact ⟨hcancelled, (fun hlisted => by cases hlisted), houtlook⟩
  | sized hduty =>
      simp only [hduty] at houtlook
      exact ⟨hcancelled, (fun hlisted => by cases hlisted), houtlook⟩
  | unlisted hduty hlisted =>
      obtain ⟨rfl, rfl⟩ := hasks hduty
      simp only [hduty, hlisted] at houtlook
      exact .answer hcancelled (Option.some.inj houtlook)
  | crashed hduty hlisted =>
      obtain ⟨rfl, rfl⟩ := hasks hduty
      simp only [hduty, hlisted] at houtlook
      exact ⟨hcancelled, (fun hlisted => by cases hlisted), houtlook⟩
  | listed hduty hlisted =>
      obtain ⟨rfl, rfl⟩ := hasks hduty
      simp only [hduty, hlisted] at houtlook
      exact ⟨hcancelled, fun _ _ => rfl, houtlook⟩
  | @finished budget admitted due hduty hover =>
      rw [hcancelled] at hover
      simp only [hduty] at houtlook
      have hnothing : Admission.visit store due (budget - admitted) pipeline.admission = (0, pipeline.admission) := by
        rcases hover with rfl | hspent | hcalledOff
        · rw [Admission.visit]
        · rw [Nat.sub_eq_zero_of_le hspent]
          cases due <;> rfl
        · cases hcalledOff
      rw [hnothing] at houtlook
      exact .answer hcancelled (Option.some.inj houtlook)
  | @passedOver budget admitted device due hduty hbudget hclaim =>
      have hclaimed : pipeline.admission.inFlight.claim? device.id = none := hclaim
      simp only [hduty, Admission.visit_of_claimed hclaimed] at houtlook
      exact ⟨hcancelled, fun _ => hloaded (by rw [hduty]; rfl), houtlook⟩
  | @claimed budget admitted device due inFlight hduty hbudget hclaim =>
      have hclaimed : pipeline.admission.inFlight.claim? device.id = some inFlight := hclaim
      simp only [hduty, Admission.afterVisit_cons hbudget hclaimed] at houtlook
      exact ⟨hcancelled, fun _ => hloaded (by rw [hduty]; rfl), houtlook⟩
  | @sent device budget admitted due work hduty hoffer =>
      have hkeeps := hloaded (by rw [hduty]; rfl)
      simp only [hduty] at houtlook
      rw [Admission.afterSending, ← hkeeps device, Admission.send, Pipeline.admission, hoffer] at houtlook
      exact ⟨hcancelled, fun _ => hkeeps, houtlook⟩
  | @shed device budget admitted due hduty hoffer =>
      have hkeeps := hloaded (by rw [hduty]; rfl)
      simp only [hduty] at houtlook
      rw [Admission.afterSending, ← hkeeps device, Admission.send, Pipeline.admission, hoffer,
        Device.loaded_id] at houtlook
      exact ⟨hcancelled, (fun hlisted => by cases hlisted), houtlook⟩
  | _ => simp [*] at houtlook

theorem not_isScheduling {move : Move} (hother : move.isProceed = false) (hbusy : pipeline.duty ≠ .idle)
    (hstep : pipeline.step? move = some next) : move.isScheduling = false := by
  cases move with
  | beginPass =>
      simp only [step?, beginPass?] at hstep
      cases hstep
  | beginSingle id =>
      simp only [step?, beginSingle?] at hstep
      cases hstep
  | stop =>
      simp only [step?, stop?] at hstep
      cases hstep
  | proceed => cases hother
  | _ => rfl

/-- A quiet move of another part than the scheduler leaves the scheduler and both places alone. -/
theorem frame_of_step? [ListingStore σ] {move : Move} (hquiet : move.isQuiet = true)
    (hother : move.isProceed = false) (hbusy : pipeline.duty ≠ .idle)
    (hstep : pipeline.step? move = some next) :
    next.cancelled = pipeline.cancelled ∧ next.duty = pipeline.duty ∧ next.reply = pipeline.reply
      ∧ next.admission = pipeline.admission
      ∧ ∀ device : Device, device.loaded next.store = device.loaded pipeline.store := by
  have hothers := not_isScheduling hother hbusy hstep
  have hleaves := leavesScheduler_of_step? hothers hstep
  have hinFlight : next.inFlight = pipeline.inFlight := hleaves.inFlight (by rintro rfl; cases hquiet)
  have hwork : next.work = pipeline.work := hleaves.work (by rintro worker rfl; cases hquiet)
  have hcancelled : next.cancelled = pipeline.cancelled := hleaves.cancelled (by rintro rfl; cases hquiet)
  refine ⟨hcancelled, hleaves.duty, hleaves.reply, ?_, fun device => ?_⟩
  · rw [Pipeline.admission, Pipeline.admission, hinFlight, hwork]
  · rw [(effect_of_step? hstep).store_eq]
    cases (pipeline.deed? move).bind Deed.update? with
    | none => rfl
    | some update => exact device.loaded_run _ _ _

theorem IsOnCourse.step [ListingStore σ] {move : Move} (hcourse : pipeline.IsOnCourse store now goal)
    (hquiet : move.isQuiet = true) (hbusy : pipeline.duty ≠ .idle)
    (hasked : (Step.mk pipeline move).isAsking = true → pipeline.store = store ∧ pipeline.now = now)
    (hstep : pipeline.step? move = some next) : next.IsOnCourse store now goal := by
  cases hproceed : move.isProceed with
  | true =>
      cases move with
      | proceed => exact hcourse.proceed hasked hstep
      | _ => cases hproceed
  | false =>
      obtain ⟨hcancelled, hduty, hreply, hplaces, hloaded⟩ :=
        frame_of_step? hquiet hproceed hbusy hstep
      refine ⟨hcancelled.trans hcourse.cancelled, ?_, ?_⟩
      · intro hlisted device
        rw [hduty] at hlisted
        rw [hloaded, hcourse.loaded hlisted]
      · have hinFlight : next.inFlight = pipeline.inFlight := congrArg Admission.inFlight hplaces
        have hwork : next.work = pipeline.work := congrArg Admission.queue hplaces
        rw [← hcourse.outlook]
        unfold Pipeline.outlook
        rw [hduty, hreply, hplaces, hinFlight, hwork]

/-! ### Undisturbed passes -/

/-- A run from the start of a pass to its answer in which nothing is taken out of the work queue, no device is released and the polling is not called off. If the store is asked for the list at all, it is asked at a given time and as it is then. -/
structure IsUndisturbedPass (store : σ) (now : Instant) (start : Pipeline σ) (steps : List (Step σ))
    (last : Pipeline σ) : Prop where
  run : ∃ begun, start.step? .beginPass = some begun ∧ Run begun steps last
  quiet : ∀ step ∈ steps, step.move.isQuiet = true
  busy : ∀ step ∈ steps, step.before.duty ≠ .idle
  asked : ∀ step ∈ steps, step.isAsking = true → step.before.store = store ∧ step.before.now = now
  finished : last.duty = .idle

/-- An undisturbed pass ends as the same pass done at once. -/
theorem IsUndisturbedPass.eq_pass [ListingStore σ] {start last : Pipeline σ} {steps : List (Step σ)}
    (hpass : IsUndisturbedPass store now start steps last) :
    last.reply = some (Admission.pass store now start.limit start.admission).1
      ∧ last.admission = (Admission.pass store now start.limit start.admission).2 := by
  obtain ⟨begun, hbegin, run⟩ := hpass.run
  have hcourse : last.IsOnCourse store now (Admission.pass store now start.limit start.admission) := by
    refine run.invariant _ (fun step => step.move.isQuiet = true ∧ step.before.duty ≠ .idle
      ∧ (step.isAsking = true → step.before.store = store ∧ step.before.now = now))
        (isOnCourse_begin hbegin) ?_ ?_
    · rintro before next move hcourse ⟨hquiet, hbusy, hasked⟩ hstep
      exact hcourse.step hquiet hbusy hasked hstep
    · intro step hmem
      exact ⟨hpass.quiet step hmem, hpass.busy step hmem, hpass.asked step hmem⟩
  have houtlook := hcourse.outlook
  unfold Pipeline.outlook at houtlook
  rw [hpass.finished] at houtlook
  obtain ⟨reply, hreply, hgoal⟩ := Option.map_eq_some_iff.1 houtlook
  rw [← hgoal]
  exact ⟨hreply, rfl⟩

/-- A pass admits the first devices of the due list that are not in flight, as many as the limit and the room in the work queue allow, and nothing else changes: neither what was in flight nor what the queue had no room for leaves a trace. That is so for the pass done at once, and for every undisturbed pass among the moves of the other parts. -/
theorem pass_admits_first_fresh [ListingStore σ] {start : Pipeline σ} {devices : List Device}
    (hkept : ListingStore.IsKept store) (hnow : now.IsOrdinary) (hopen : start.work.isOpen = true)
    (hlisted : Store.readDue store (fun _ => now) now (start.budget + start.inFlight.size) = .listed devices) :
    ∃ due, IsDueList store (ListingStore.kept σ now) due
      ∧ ∃ taken, taken = (due.filter fun device => !start.inFlight.contains device.id).take taken.length
        ∧ taken.length = min (start.limit - start.inFlight.size)
          (min start.work.room (due.filter fun device => !start.inFlight.contains device.id).length)
        ∧ Admission.pass store now start.limit ⟨start.inFlight, start.work⟩
          = (.ok (.admitted taken.length), ⟨⟨start.inFlight.ids ++ taken.map (·.id)⟩,
            { start.work with items := start.work.items ++ taken.map (·.loaded store) }⟩)
        ∧ ∀ steps last, IsUndisturbedPass store now start steps last →
          last.reply = some (.ok (.admitted taken.length))
            ∧ last.inFlight = ⟨start.inFlight.ids ++ taken.map (·.id)⟩
            ∧ last.work
              = { start.work with items := start.work.items ++ taken.map (·.loaded store) } := by
  obtain ⟨due, hdue, hend⟩ :=
    Admission.pass_eq hkept hnow (show start.admission.queue.isOpen = true from hopen) hlisted
  refine ⟨due, hdue, start.admission.admitted start.limit due, ?_, ?_, hend, ?_⟩
  · rw [Admission.admitted, Admission.selected, List.length_take]
    exact List.take_eq_take_min
  · exact Admission.length_admitted start.limit due
  · intro steps last hpass
    obtain ⟨hreply, hplaces⟩ := hpass.eq_pass
    rw [hend] at hreply hplaces
    exact ⟨hreply, congrArg Admission.inFlight hplaces, congrArg Admission.queue hplaces⟩

/-! ### A crowded pass -/

/-- Two due devices, of which one is in flight already, with a device that the store does not know. -/
def crowded : Pipeline MemoryStore := { sample with limit := 3, inFlight := ⟨[⟨2⟩, ⟨9⟩]⟩ }

def crowdedMoves : List Move :=
  [.proceed, .advance ⟨1001, 0⟩, .proceed, .proceed, .advance ⟨1002, 0⟩, .proceed, .proceed, .proceed]

/-- The pass may admit one more device and admits the one that is not in flight. -/
theorem pass_admits_first_fresh_crowded : ∃ due, IsDueList MemoryStore.sample ⟨1001, 0⟩ due
    ∧ ∃ taken, taken = (due.filter fun device => !crowded.inFlight.contains device.id).take taken.length
      ∧ taken.length = min (crowded.limit - crowded.inFlight.size)
        (min crowded.work.room (due.filter fun device => !crowded.inFlight.contains device.id).length)
      ∧ ∃ steps last, IsUndisturbedPass MemoryStore.sample ⟨1001, 0⟩ crowded steps last
        ∧ last.reply = some (.ok (.admitted taken.length)) ∧ taken.length = 1
        ∧ last.inFlight = ⟨crowded.inFlight.ids ++ taken.map (·.id)⟩
        ∧ last.inFlight = ⟨[⟨2⟩, ⟨9⟩, ⟨1⟩]⟩ := by
  obtain ⟨due, hdue, taken, hfront, hlength, _, hpasses⟩ :=
    pass_admits_first_fresh (show ListingStore.IsKept MemoryStore.sample from MemoryStore.isReached_sample)
      (show (Instant.mk 1001 0).IsOrdinary by decide) (show crowded.work.isOpen = true from rfl)
      (show Store.readDue MemoryStore.sample (fun _ => ⟨1001, 0⟩) ⟨1001, 0⟩ (crowded.budget + crowded.inFlight.size)
        = .listed [.sample 1, .sample 2] by
          rw [MemoryStore.eq_byInsertion]
          decide +kernel)
  have hrun : (crowded.step? .beginPass).any (fun begun =>
      (begun.follow? crowdedMoves).any fun run =>
        decide (∀ step ∈ run.1, step.move.isQuiet = true)
          && decide (∀ step ∈ run.1, step.before.duty ≠ .idle)
          && decide (∀ step ∈ run.1, step.isAsking = true →
            step.before.store = MemoryStore.sample ∧ step.before.now = ⟨1001, 0⟩)
          && decide (run.2.duty = .idle) && decide (run.2.reply = some (.ok (.admitted 1)))
          && decide (run.2.inFlight = ⟨[⟨2⟩, ⟨9⟩, ⟨1⟩]⟩)) = true := by
    rw [MemoryStore.eq_byInsertion]
    decide +kernel
  obtain ⟨begun, hbegin, hrun⟩ := (Option.any_eq_true _ _).1 hrun
  obtain ⟨⟨steps, last⟩, hfollow, hlast⟩ := (Option.any_eq_true _ _).1 hrun
  simp only [Bool.and_eq_true, decide_eq_true_eq] at hlast
  obtain ⟨⟨⟨⟨⟨hquiet, hbusy⟩, hasked⟩, hover⟩, hreply⟩, hinFlight⟩ := hlast
  have hpass : IsUndisturbedPass MemoryStore.sample ⟨1001, 0⟩ crowded steps last :=
    ⟨⟨begun, hbegin, Run.refl.follow hfollow⟩, hquiet, hbusy, hasked, hover⟩
  obtain ⟨hanswer, hids, _⟩ := hpasses steps last hpass
  have hone : taken.length = 1 := by
    have hsame := hanswer.symm.trans hreply
    simpa using hsame
  exact ⟨due, hdue, taken, hfront, hlength, steps, last, hpass, hanswer, hone, hids, hinFlight⟩

end Pipeline

end RouterPoll
