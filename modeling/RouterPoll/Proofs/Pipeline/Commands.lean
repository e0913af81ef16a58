import RouterPoll.Proofs.Pipeline.Answers
import RouterPoll.Proofs.Pipeline.Pass

/-!
# Commands among other moves

A command takes many moves of the scheduler, and the other parts move in between. It puts a device into the work queue only after it claimed it as in flight, and what the queue refuses is released at once. As long as the processor releases no device meanwhile, in flight is what was, what was queued since, and what the scheduler has in its hand; so when the command ends, in flight is what was in flight before and what it has put into the queue, and its answer says how much that is.
-/

namespace RouterPoll

/-! ### What is queued on the way -/

namespace Deed

def queued? : Deed → Option Device
  | queue device => some device
  | _ => none

def isTaking : Deed → Bool
  | take _ => true
  | _ => false

end Deed

def Command.begin : Command → Move
  | pass => .beginPass
  | single id => .beginSingle id

def Move.isRelease : Move → Bool
  | .release => true
  | _ => false

namespace Pipeline

variable {σ : Type} [Store σ]

def Step.queued? (step : Step σ) : Option Device := step.deed?.bind Deed.queued?

/-- The devices that are put into the work queue in some steps. -/
def queuedIn (steps : List (Step σ)) : List Device := steps.filterMap Step.queued?

def Step.isTaking (step : Step σ) : Bool := step.deed?.any Deed.isTaking

def Step.found? (step : Step σ) : Option Device :=
  match step.move, step.before.duty with
  | .proceed, .lookingUp id => (Store.readDevice? step.before.store step.before.now id).toOption.join
  | _, _ => none

def foundIn (steps : List (Step σ)) : List Device := steps.filterMap Step.found?

variable {start pipeline next last : Pipeline σ} {steps : List (Step σ)} {move : Move} {command : Command}

theorem queuedIn_snoc (steps : List (Step σ)) (step : Step σ) :
    queuedIn (steps ++ [step]) = queuedIn steps ++ step.queued?.toList := by
  unfold queuedIn
  rw [List.filterMap_append]
  cases hqueued : step.queued? <;> simp [hqueued]

theorem foundIn_snoc (steps : List (Step σ)) (step : Step σ) :
    foundIn (steps ++ [step]) = foundIn steps ++ step.found?.toList := by
  unfold foundIn
  rw [List.filterMap_append]
  cases hfound : step.found? <;> simp [hfound]

theorem Progress.queued?_eq {queued : Option Device} (hprogress : pipeline.Progress queued next) :
    (Step.mk pipeline .proceed).queued? = queued := by
  show (pipeline.deed? .proceed).bind Deed.queued? = queued
  rw [hprogress.deed?_eq]
  cases queued <;> rfl

/-- The queue is asked for a device in hand whatever could be loaded for it. -/
theorem queued?_of_inHand? {device : Device} (hhand : pipeline.duty.inHand? = some device) :
    (Step.mk pipeline .proceed).queued?
      = if 0 < pipeline.admission.openRoom then some (device.loaded pipeline.store) else none := by
  have hdeed : (Step.mk pipeline .proceed).queued? = (pipeline.deed? .proceed).bind Deed.queued? := rfl
  rcases Nat.eq_zero_or_pos pipeline.admission.openRoom with hfull | hroom
  · have hoffer : pipeline.work.offer? (device.loaded pipeline.store) = none := Admission.offer?_of_full hfull
    rw [hdeed, if_neg (Nat.not_lt.2 (Nat.le_of_eq hfull))]
    simp [deed?, hhand, sendDevice_of_none hoffer]
  · have hoffer : pipeline.work.offer? (device.loaded pipeline.store) = some _ := Admission.offer?_of_room hroom
    rw [hdeed, if_pos hroom]
    simp [deed?, hhand, sendDevice_of_some hoffer, Deed.queued?]

theorem queued?_of_other (hother : move.isProceed = false) : (Step.mk pipeline move).queued? = none := by
  show (pipeline.deed? move).bind Deed.queued? = none
  cases move with
  | proceed => cases hother
  | conclude worker ending =>
      simp only [deed?]
      split
      · rename_i device startedAt hphase
        cases ending.toResult? device startedAt pipeline.now <;> rfl
      · rfl
  | forward worker =>
      simp only [deed?]
      cases pipeline.results.isOpen <;> rfl
  | accept =>
      simp only [deed?]
      cases pipeline.results.items.head? <;> rfl
  | write =>
      simp only [deed?]
      split <;> rfl
  | consider worker =>
      simp only [deed?]
      cases pipeline.cancelled <;> rfl
  | _ => rfl

/-- What was in the work queue and what came into it is what workers took, one after the other, and what is in it still. -/
theorem Run.work_items (run : Run start steps last) : ∃ gone, gone.length = steps.countP Step.isTaking
    ∧ start.work.items ++ queuedIn steps = gone ++ last.work.items := by
  induction run with
  | refl => exact ⟨[], rfl, List.append_nil _⟩
  | @snoc steps pipeline next move run hstep ih =>
      obtain ⟨gone, hlength, hitems⟩ := ih
      have heffect := effect_of_step? hstep
      have hdeed : (Step.mk pipeline move).deed? = pipeline.deed? move := rfl
      rw [queuedIn_snoc, List.countP_append, ← List.append_assoc, hitems, ← hlength, List.countP_singleton,
        Step.queued?, Step.isTaking, hdeed]
      generalize pipeline.deed? move = deed at heffect
      cases heffect with
      | @sent device duty reply work hbefore hafter hallowance hremaining hoffer =>
          obtain ⟨_, _, rfl⟩ := Queue.offer?_eq_some hoffer
          exact ⟨gone, rfl, List.append_assoc _ _ _⟩
      | @taken worker device work hphase htake =>
          refine ⟨gone ++ [device], List.length_append, ?_⟩
          rw [(Queue.take?_eq_some htake).1, List.append_assoc]
          simp [Deed.queued?, setWorker]
      | _ => exact ⟨gone, rfl, List.append_nil _⟩

end Pipeline

/-! ### What is kept on the way -/

/-- What the scheduler is at while it carries out a command for which it has found and queued some devices. -/
def Duty.Carries (command : Command) (found queued : List Device) (reply : Option Reply) : Duty → Prop
  | checkingRoom _ | sizing _ | listing _ _ => command = .pass ∧ queued = []
  | visiting _ admitted _ | sending _ _ admitted _ => command = .pass ∧ admitted = queued.length
  | lookingUp id => command = .single id ∧ queued = []
  | claiming device | sendingSingle device => (∃ id, command = .single id) ∧ device ∈ found ∧ queued = []
  | idle | ended _ => ∃ answer, reply = some answer ∧ command.IsAnswered found queued answer

theorem Duty.Carries.answered {command : Command} {found queued : List Device} {reply : Option Reply} {duty : Duty}
    (hcarries : duty.Carries command found queued reply) (hfinished : duty = .idle ∨ duty.isEnded = true) :
    duty.inHand? = none ∧ ∃ answer, reply = some answer ∧ command.IsAnswered found queued answer := by
  cases duty with
  | idle => exact ⟨rfl, hcarries⟩
  | ended isClean => exact ⟨rfl, hcarries⟩
  | _ => rcases hfinished with hidle | hended <;> contradiction

namespace Pipeline

variable {σ : Type} [Store σ] {start pipeline next last : Pipeline σ} {steps : List (Step σ)} {move : Move}
  {command : Command} {duty : Duty} {reply : Option Reply} {device : Device}

/-- What is kept while a command is carried out: in flight is what was, what was queued since and what the scheduler has in its hand. -/
structure Carries (command : Command) (start : Pipeline σ) (steps : List (Step σ)) (pipeline : Pipeline σ) :
    Prop where
  inFlight : pipeline.inFlight.ids
    = start.inFlight.ids ++ (queuedIn steps ++ pipeline.duty.inHand?.toList).map (·.id)
  free : start.admission.IsFree (queuedIn steps ++ pipeline.duty.inHand?.toList)
  duty : pipeline.duty.Carries command (foundIn steps) (queuedIn steps) pipeline.reply
  found : ∀ device ∈ foundIn steps, ∃ id, command = .single id
    ∧ ∃ step ∈ steps, Store.readDevice? step.before.store step.before.now id = .ok (some device)

theorem begin_eq (hbegin : start.step? command.begin = some next) : next.inFlight = start.inFlight
    ∧ next.work = start.work ∧ next.duty.inHand? = none ∧ next.duty.Carries command [] [] next.reply := by
  cases command with
  | pass =>
      simp only [Command.begin, step?, beginPass?] at hbegin
      split at hbegin
      · split at hbegin
        · cases hbegin
        · split at hbegin
          · cases hbegin
            exact ⟨rfl, rfl, rfl, _, rfl, .inl rfl⟩
          · cases hbegin
            exact ⟨rfl, rfl, rfl, rfl, rfl⟩
      · cases hbegin
  | single id =>
      simp only [Command.begin, step?, beginSingle?] at hbegin
      split at hbegin
      · split at hbegin
        · cases hbegin
        · split at hbegin
          · cases hbegin
            exact ⟨rfl, rfl, rfl, _, rfl, .inr ⟨.inl rfl, rfl⟩⟩
          · cases hbegin
            exact ⟨rfl, rfl, rfl, rfl, rfl⟩
      · cases hbegin

theorem carries_begin (hbegin : start.step? command.begin = some next) : Carries command start [] next := by
  obtain ⟨hinFlight, _, hhand, hduty⟩ := begin_eq hbegin
  refine ⟨?_, ?_, hduty, fun device hmem => by cases hmem⟩
  · rw [hinFlight, hhand]
    exact (List.append_nil _).symm
  · rw [hhand]
    exact start.admission.isFree_nil

namespace Carries

variable (hcarries : Carries command start steps pipeline)
include hcarries

theorem found_snoc : ∀ device ∈ foundIn (steps ++ [⟨pipeline, move⟩]), ∃ id, command = .single id
    ∧ ∃ step ∈ steps ++ [⟨pipeline, move⟩],
        Store.readDevice? step.before.store step.before.now id = .ok (some device) := by
  intro device hmem
  rw [foundIn_snoc] at hmem
  rcases List.mem_append.1 hmem with hold | hnew
  · obtain ⟨id, hid, step, hstep, hfound⟩ := hcarries.found device hold
    exact ⟨id, hid, step, List.mem_append_left _ hstep, hfound⟩
  · rw [Option.mem_toList] at hnew
    unfold Step.found? at hnew
    split at hnew
    · rename_i id _ hduty
      have hcommand : pipeline.duty.Carries command (foundIn steps) (queuedIn steps) pipeline.reply := hcarries.duty
      have hlooks : pipeline.duty = .lookingUp id := hduty
      rw [hlooks] at hcommand
      refine ⟨id, hcommand.1, _, List.mem_append_right _ (List.mem_singleton.2 rfl), ?_⟩
      cases hfound : Store.readDevice? pipeline.store pipeline.now id with
      | error error =>
          simp only [hfound] at hnew
          cases hnew
      | ok answer =>
          simp only [hfound] at hnew
          exact congrArg Except.ok hnew
    · cases hnew

theorem turn (hqueued : (Step.mk pipeline move).queued? = none) (hbefore : pipeline.duty.inHand? = none)
    (hafter : duty.inHand? = none)
    (hduty : duty.Carries command (foundIn (steps ++ [⟨pipeline, move⟩])) (queuedIn steps) reply) :
    Carries command start (steps ++ [⟨pipeline, move⟩]) { pipeline with duty, reply } := by
  have hinFlight := hcarries.inFlight
  have hfree := hcarries.free
  rw [hbefore] at hinFlight hfree
  refine ⟨?_, ?_, ?_, hcarries.found_snoc⟩
  · rw [queuedIn_snoc, hqueued, hafter]
    simpa using hinFlight
  · rw [queuedIn_snoc, hqueued, hafter]
    simpa using hfree
  · rw [queuedIn_snoc, hqueued]
    simpa using hduty

theorem claim {inFlight : InFlight} (hqueued : (Step.mk pipeline move).queued? = none)
    (hbefore : pipeline.duty.inHand? = none) (hafter : duty.inHand? = some device)
    (hclaim : pipeline.inFlight.claim? device.id = some inFlight)
    (hduty : duty.Carries command (foundIn (steps ++ [⟨pipeline, move⟩])) (queuedIn steps) pipeline.reply) :
    Carries command start (steps ++ [⟨pipeline, move⟩]) { pipeline with inFlight, duty } := by
  have hinFlight := hcarries.inFlight
  obtain ⟨hnodup, hfree⟩ := hcarries.free
  obtain ⟨hfresh, hids⟩ := InFlight.claim?_eq_some hclaim
  rw [hbefore, Option.toList_none, List.append_nil] at hinFlight hnodup hfree
  rw [hinFlight, List.mem_append, not_or] at hfresh
  refine ⟨?_, ⟨?_, ?_⟩, ?_, hcarries.found_snoc⟩
  · rw [queuedIn_snoc, hqueued, hafter, hids, hinFlight]
    simp
  · rw [queuedIn_snoc, hqueued, hafter]
    simp only [Option.toList_none, Option.toList_some, List.append_nil, List.map_append, List.map_cons, List.map_nil]
    exact hnodup.append (List.nodup_singleton _) (List.disjoint_singleton.2 hfresh.2)
  · rw [queuedIn_snoc, hqueued, hafter]
    simp only [Option.toList_none, Option.toList_some, List.append_nil]
    intro other hmem
    rcases List.mem_append.1 hmem with hold | hnew
    · exact hfree other hold
    · rw [List.mem_singleton.1 hnew]
      exact hfresh.1
  · rw [queuedIn_snoc, hqueued]
    simpa using hduty

theorem send {work : Queue Device} (hqueued : (Step.mk pipeline move).queued? = some (device.loaded pipeline.store))
    (hbefore : pipeline.duty.inHand? = some device) (hafter : duty.inHand? = none)
    (hduty : duty.Carries command (foundIn (steps ++ [⟨pipeline, move⟩]))
      (queuedIn steps ++ [device.loaded pipeline.store]) reply) :
    Carries command start (steps ++ [⟨pipeline, move⟩]) { pipeline with work, duty, reply } := by
  have hinFlight := hcarries.inFlight
  have hfree := hcarries.free
  rw [hbefore] at hinFlight hfree
  have hids : (queuedIn steps ++ [device.loaded pipeline.store]).map (·.id)
      = (queuedIn steps ++ [device]).map (·.id) := by simp
  refine ⟨?_, ?_, ?_, hcarries.found_snoc⟩
  · rw [queuedIn_snoc, hqueued, hafter, Option.toList_none, List.append_nil, Option.toList_some, hids]
    exact hinFlight
  · rw [queuedIn_snoc, hqueued, hafter, Option.toList_none, List.append_nil]
    exact hfree.of_ids hids
  · rw [queuedIn_snoc, hqueued]
    exact hduty

theorem shed (hqueued : (Step.mk pipeline move).queued? = none)
    (hbefore : pipeline.duty.inHand? = some device) (hafter : duty.inHand? = none)
    (hduty : duty.Carries command (foundIn (steps ++ [⟨pipeline, move⟩])) (queuedIn steps) reply) :
    Carries command start (steps ++ [⟨pipeline, move⟩])
      { pipeline with inFlight := pipeline.inFlight.release device.id, duty, reply } := by
  have hinFlight := hcarries.inFlight
  obtain ⟨hnodup, hfree⟩ := hcarries.free
  rw [hbefore, Option.toList_some] at hinFlight hnodup hfree
  rw [List.map_append, List.map_singleton, ← List.append_assoc] at hinFlight
  rw [List.map_append, List.map_singleton, List.nodup_append'] at hnodup
  have hother : device.id ∉ start.inFlight.ids ++ (queuedIn steps).map (·.id) := by
    rw [List.mem_append, not_or]
    exact ⟨hfree device (List.mem_append_right _ (List.mem_singleton.2 rfl)), fun hmem =>
      hnodup.2.2 hmem (List.mem_singleton.2 rfl)⟩
  have hreleased : pipeline.inFlight.release device.id = ⟨start.inFlight.ids ++ (queuedIn steps).map (·.id)⟩ := by
    have hsame : pipeline.inFlight = ⟨start.inFlight.ids ++ (queuedIn steps).map (·.id) ++ [device.id]⟩ :=
      congrArg InFlight.mk hinFlight
    rw [hsame]
    exact InFlight.release_append hother
  refine ⟨?_, ⟨?_, ?_⟩, ?_, hcarries.found_snoc⟩
  · rw [queuedIn_snoc, hqueued, hafter, hreleased]
    simp
  · rw [queuedIn_snoc, hqueued, hafter]
    simpa using hnodup.1
  · rw [queuedIn_snoc, hqueued, hafter]
    intro other hmem
    refine hfree other (List.mem_append_left _ ?_)
    simpa using hmem
  · rw [queuedIn_snoc, hqueued]
    simpa using hduty

/-- The command is carried on whatever the scheduler does. -/
theorem proceed {queued : Option Device} (hprogress : pipeline.Progress queued next) :
    Carries command start (steps ++ [⟨pipeline, .proceed⟩]) next := by
  have hqueued := hprogress.queued?_eq
  have hduty := hcarries.duty
  have hfound {device : Device} (hmem : device ∈ foundIn steps) :
      device ∈ foundIn (steps ++ [⟨pipeline, .proceed⟩]) := by
    rw [foundIn_snoc]
    exact List.mem_append_left _ hmem
  cases hprogress with
  | full hat hfull =>
      rw [hat] at hduty
      obtain ⟨rfl, hnone⟩ := hduty
      exact hcarries.turn hqueued (by rw [hat]; rfl) rfl ⟨_, rfl, .inl (by rw [hnone]; rfl)⟩
  | roomy hat hroom =>
      rw [hat] at hduty
      exact hcarries.turn hqueued (by rw [hat]; rfl) rfl hduty
  | sized hat =>
      rw [hat] at hduty
      exact hcarries.turn hqueued (by rw [hat]; rfl) rfl hduty
  | unlisted hat hlisted =>
      rw [hat] at hduty
      obtain ⟨rfl, hnone⟩ := hduty
      exact hcarries.turn hqueued (by rw [hat]; rfl) rfl ⟨_, rfl, .inr ⟨⟨_, rfl⟩, hnone⟩⟩
  | crashed hat hlisted =>
      rw [hat] at hduty
      obtain ⟨rfl, hnone⟩ := hduty
      exact hcarries.turn hqueued (by rw [hat]; rfl) rfl ⟨_, rfl, .inr ⟨⟨_, rfl⟩, hnone⟩⟩
  | listed hat hlisted =>
      rw [hat] at hduty
      exact hcarries.turn hqueued (by rw [hat]; rfl) rfl ⟨hduty.1, by rw [hduty.2]; rfl⟩
  | finished hat hover =>
      rw [hat] at hduty
      obtain ⟨rfl, hcount⟩ := hduty
      exact hcarries.turn hqueued (by rw [hat]; rfl) rfl ⟨_, rfl, .inl (by rw [hcount])⟩
  | passedOver hat hbudget hclaim =>
      rw [hat] at hduty
      exact hcarries.turn hqueued (by rw [hat]; rfl) rfl hduty
  | claimed hat hbudget hclaim =>
      rw [hat] at hduty
      exact hcarries.claim hqueued (by rw [hat]; rfl) rfl hclaim hduty
  | sent hat hoffer =>
      rw [hat] at hduty
      refine hcarries.send hqueued (by rw [hat]; rfl) rfl ⟨hduty.1, ?_⟩
      rw [hduty.2, List.length_append, List.length_singleton]
  | shed hat hoffer =>
      rw [hat] at hduty
      obtain ⟨rfl, hcount⟩ := hduty
      exact hcarries.shed hqueued (by rw [hat]; rfl) rfl ⟨_, rfl, .inl (by rw [hcount])⟩
  | unread hat hlookup =>
      rw [hat] at hduty
      obtain ⟨rfl, hnone⟩ := hduty
      exact hcarries.turn hqueued (by rw [hat]; rfl) rfl ⟨_, rfl, .inr ⟨.inr ⟨_, rfl⟩, hnone⟩⟩
  | unknown hat hlookup =>
      rw [hat] at hduty
      obtain ⟨rfl, hnone⟩ := hduty
      exact hcarries.turn hqueued (by rw [hat]; rfl) rfl ⟨_, rfl, .inr ⟨.inr ⟨_, rfl⟩, hnone⟩⟩
  | @found id device hat hlookup =>
      rw [hat] at hduty
      refine hcarries.turn hqueued (by rw [hat]; rfl) rfl ⟨⟨id, hduty.1⟩, ?_, hduty.2⟩
      rw [foundIn_snoc, List.mem_append]
      refine .inr ?_
      simp [Step.found?, hat, hlookup, Except.toOption]
  | passedOverSingle hat hclaim =>
      rw [hat] at hduty
      obtain ⟨⟨id, rfl⟩, _, hnone⟩ := hduty
      exact hcarries.turn hqueued (by rw [hat]; rfl) rfl ⟨_, rfl, .inr ⟨.inl rfl, hnone⟩⟩
  | claimedSingle hat hclaim =>
      rw [hat] at hduty
      exact hcarries.claim hqueued (by rw [hat]; rfl) rfl hclaim ⟨hduty.1, hfound hduty.2.1, hduty.2.2⟩
  | @sentSingle device work hat hoffer =>
      rw [hat] at hduty
      obtain ⟨⟨id, rfl⟩, hmem, hnone⟩ := hduty
      refine hcarries.send hqueued (by rw [hat]; rfl) rfl ⟨_, rfl, .inl ⟨rfl, device, hfound hmem, ?_⟩⟩
      rw [hnone, List.nil_append, List.map_singleton, Device.loaded_id]
  | shedSingle hat hoffer =>
      rw [hat] at hduty
      obtain ⟨⟨id, rfl⟩, _, hnone⟩ := hduty
      exact hcarries.shed hqueued (by rw [hat]; rfl) rfl ⟨_, rfl, .inr ⟨.inl rfl, hnone⟩⟩

theorem step (hbusy : pipeline.duty ≠ .idle) (hkeeps : move.isRelease = false)
    (hstep : pipeline.step? move = some next) : Carries command start (steps ++ [⟨pipeline, move⟩]) next := by
  cases hproceed : move.isProceed with
  | true =>
      cases move with
      | proceed =>
          obtain ⟨queued, hprogress⟩ := progress_of_proceed? hstep
          exact hcarries.proceed hprogress
      | _ => cases hproceed
  | false =>
      have hleaves := leavesScheduler_of_step? (not_isScheduling hproceed hbusy hstep) hstep
      have hqueued : queuedIn (steps ++ [⟨pipeline, move⟩]) = queuedIn steps := by
        rw [queuedIn_snoc, queued?_of_other hproceed]
        exact List.append_nil _
      have hfound : foundIn (steps ++ [⟨pipeline, move⟩]) = foundIn steps := by
        have hnone : (Step.mk pipeline move).found? = none := by
          cases move with
          | proceed => cases hproceed
          | _ => rfl
        rw [foundIn_snoc, hnone]
        exact List.append_nil _
      refine ⟨?_, ?_, ?_, hcarries.found_snoc⟩
      · rw [hqueued, hleaves.duty, hleaves.inFlight (by rintro rfl; cases hkeeps)]
        exact hcarries.inFlight
      · rw [hqueued, hleaves.duty]
        exact hcarries.free
      · rw [hqueued, hfound, hleaves.duty, hleaves.reply]
        exact hcarries.duty

end Carries

/-- A run from the start of a command to its end, in which the processor releases no device. -/
structure IsCommandRun (command : Command) (start : Pipeline σ) (steps : List (Step σ)) (last : Pipeline σ) :
    Prop where
  run : ∃ begun, start.step? command.begin = some begun ∧ Run begun steps last
  busy : ∀ step ∈ steps, step.before.duty ≠ .idle
  unreleased : ∀ step ∈ steps, step.move.isRelease = false
  finished : last.duty = .idle ∨ last.duty.isEnded = true

theorem IsCommandRun.carries (hcommand : IsCommandRun command start steps last) : Carries command start steps last := by
  obtain ⟨⟨begun, hbegin, run⟩, hbusy, hkeeps, hfinished⟩ := hcommand
  clear hfinished
  induction run with
  | refl => exact carries_begin hbegin
  | @snoc steps pipeline next move run hstep ih =>
      have hearlier := ih (fun step hmem => hbusy step (List.mem_append_left _ hmem))
        fun step hmem => hkeeps step (List.mem_append_left _ hmem)
      have hlast : Step.mk pipeline move ∈ steps ++ [⟨pipeline, move⟩] :=
        List.mem_append_right _ (List.mem_singleton.2 rfl)
      exact hearlier.step (hbusy _ hlast) (hkeeps _ hlast) hstep

/-- However a command ends, in flight is what was and what the command has put into the work queue, and its answer tells how much that is: a pass answers how many devices it queued, or with an error that it queued none; a single device is taken exactly when it was queued, and otherwise both places are as they were. Which devices these are does not depend on what is loaded for them. That is so for a command carried out at once, and for one among the moves of the other parts, of which only the workers touch the work queue. -/
theorem command_admits_what_it_queues (command : Command) :
    (∀ (scheduler : Scheduler) (store : σ) (now : Instant), ∃ found taken reply,
      command.IsAnswered found taken reply
      ∧ (∀ id, command = .single id →
        (reply = .ok (.taken true) ↔ ∃ device ∈ found, taken.map (·.id) = [device.id])
        ∧ ((reply = .ok (.taken false) ∨ ∃ error, reply = .error error)
          ↔ scheduler.admission.admitting store taken = scheduler.admission))
      ∧ (∀ device ∈ found, ∃ id, command = .single id ∧ Store.readDevice? store now id = .ok (some device))
      ∧ scheduler.admission.IsFree taken
      ∧ ∀ {τ : Type} [Store τ] (other : τ), ListsAlike store other → scheduler.perform other now command
        = (reply, { scheduler with
          state := scheduler.state.after reply, admission := scheduler.admission.admitting other taken }))
    ∧ (∀ (start last : Pipeline σ) (steps : List (Step σ)), IsCommandRun command start steps last →
      ∃ reply, last.reply = some reply
      ∧ command.IsAnswered (foundIn steps) (queuedIn steps) reply
      ∧ (∀ id, command = .single id →
        (reply = .ok (.taken true) ↔ ∃ device ∈ foundIn steps, (queuedIn steps).map (·.id) = [device.id])
        ∧ ((reply = .ok (.taken false) ∨ ∃ error, reply = .error error)
          ↔ queuedIn steps = [] ∧ last.inFlight.ids = start.inFlight.ids))
      ∧ (∀ device ∈ foundIn steps, ∃ id, command = .single id
        ∧ ∃ step ∈ steps, Store.readDevice? step.before.store step.before.now id = .ok (some device))
      ∧ start.admission.IsFree (queuedIn steps)
      ∧ last.inFlight.ids = start.inFlight.ids ++ (queuedIn steps).map (·.id)
      ∧ (∃ gone, gone.length = steps.countP Step.isTaking
        ∧ start.work.items ++ queuedIn steps = gone ++ last.work.items)
      ∧ ∀ step ∈ steps, ∀ device, step.move.isProceed = true → step.before.duty.inHand? = some device →
        step.queued?
          = if 0 < step.before.admission.openRoom then some (device.loaded step.before.store) else none)
    ∧ ∀ (device : Device) (store : σ), device.loaded store = { device with
      capabilities := (Store.capabilities? store device.id).toOption.getD device.capabilities
      roles := ((Store.roles store device.id).toOption.map Role.byPriority).getD device.roles } := by
  refine ⟨fun scheduler store now => ?_, fun start last steps hcommand => ?_, Device.loaded_eq⟩
  · obtain ⟨found, taken, reply, hanswered, hfound, hfree, hperform⟩ := scheduler.perform_admits store now command
    refine ⟨found, taken, reply, hanswered, ?_, hfound, hfree, hperform⟩
    rintro id rfl
    rw [Admission.admitting_eq_self_iff]
    exact hanswered.taken_iff
  · have hcarries := hcommand.carries
    obtain ⟨hhand, reply, hreply, hanswered⟩ := hcarries.duty.answered hcommand.finished
    have hinFlight := hcarries.inFlight
    have hfree := hcarries.free
    rw [hhand, Option.toList_none, List.append_nil] at hinFlight hfree
    obtain ⟨begun, hbegin, run⟩ := hcommand.run
    obtain ⟨_, hwork, _⟩ := begin_eq hbegin
    refine ⟨reply, hreply, hanswered, ?_, hcarries.found, hfree, hinFlight, ?_, ?_⟩
    · rintro id rfl
      refine ⟨hanswered.taken_iff.1, hanswered.taken_iff.2.trans ?_⟩
      rw [hinFlight]
      simp
    · rw [← hwork]
      exact run.work_items
    · rintro ⟨before, move⟩ _ device hproceed hdevice
      cases move with
      | proceed => exact queued?_of_inHand? hdevice
      | _ => cases hproceed

def narrow : Pipeline MemoryStore := { crowded with inFlight := ⟨[⟨9⟩]⟩, work := .ofCapacity 1 }

/-- The queue takes the first device and refuses the second, of which no trace is left. -/
theorem command_admits_what_it_queues_narrow : ∃ steps last, IsCommandRun .pass narrow steps last
    ∧ last.reply = some (.ok (.admitted 1))
    ∧ Command.pass.IsAnswered (foundIn steps) (queuedIn steps) (.ok (.admitted 1))
    ∧ (queuedIn steps).map (·.id) = [⟨1⟩]
    ∧ narrow.admission.IsFree (queuedIn steps)
    ∧ last.inFlight.ids = narrow.inFlight.ids ++ (queuedIn steps).map (·.id) := by
  have hrun : (narrow.step? .beginPass).any (fun begun =>
      (begun.follow? (.advance ⟨1001, 0⟩ :: List.replicate 7 .proceed)).any fun run =>
        decide (∀ step ∈ run.1, step.before.duty ≠ .idle)
          && decide (∀ step ∈ run.1, step.move.isRelease = false)
          && decide (run.2.duty = .idle) && decide (run.2.reply = some (.ok (.admitted 1)))
          && decide ((queuedIn run.1).map (·.id) = [⟨1⟩])) = true := by
    rw [MemoryStore.eq_byInsertion]
    decide +kernel
  obtain ⟨begun, hbegin, hrun⟩ := (Option.any_eq_true _ _).1 hrun
  obtain ⟨⟨steps, last⟩, hfollow, hlast⟩ := (Option.any_eq_true _ _).1 hrun
  simp only [Bool.and_eq_true, decide_eq_true_eq] at hlast
  obtain ⟨⟨⟨⟨hbusy, hkeeps⟩, hover⟩, hreply⟩, hqueued⟩ := hlast
  have hcommand : IsCommandRun .pass narrow steps last :=
    ⟨⟨begun, hbegin, Run.refl.follow hfollow⟩, hbusy, hkeeps, .inl hover⟩
  obtain ⟨reply, hanswer, hanswered, _, _, hfree, hinFlight, _⟩ :=
    (command_admits_what_it_queues .pass).2.1 narrow last steps hcommand
  cases hanswer.symm.trans hreply
  exact ⟨steps, last, hcommand, hreply, hanswered, hqueued, hfree, hinFlight⟩

end Pipeline

end RouterPoll
