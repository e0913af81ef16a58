import Mathlib.Data.List.Forall2
import RouterPoll.Proofs.Pipeline.Places

/-!
# What becomes of jobs

A device is a job once it is in the work queue, and a result stands for the job later; the pipeline itself does not tell one job from another. The journal of a run has an entry for everything that happened to any job, and a `Ledger` sorts the entries by jobs. Both queues are first in, first out, a worker has one job at a time, and so has the processor, so the deeds alone say which job they are about.

`Follows` is the invariant: every entry of the journal belongs to one job, the open jobs lie in the pipeline place by place, with the entries that belong to that place, and the closed ones have met one of two ends.
-/

namespace RouterPoll

theorem forall₂_set {α β : Type} {related : α → β → Prop} {left : List α} {right : List β}
    (hall : List.Forall₂ related left right) (position : Nat) {x : α} {y : β} (hnew : related x y) :
    List.Forall₂ related (left.set position x) (right.set position y) := by
  induction hall generalizing position with
  | nil => exact .nil
  | cons hhead htail ih =>
      cases position with
      | zero => exact .cons hnew htail
      | succ position => exact .cons hhead (ih position)

theorem forall₂_getElem? {α β : Type} {related : α → β → Prop} {left : List α} {right : List β}
    (hall : List.Forall₂ related left right) {position : Nat} {x : α}
    (hleft : left[position]? = some x) : ∃ y, right[position]? = some y ∧ related x y := by
  induction hall generalizing position with
  | nil => cases hleft
  | cons hhead htail ih =>
      cases position with
      | zero =>
          cases hleft
          exact ⟨_, rfl, hhead⟩
      | succ position => exact ih hleft

/-! ### Jobs, the journal and the ledger -/

/-- What happens to a job. -/
inductive Stage where
  | queued (device : Device)
  | taken
  | dropped (calledOff : Bool)
  | begun
  | concluded (result : PollResult)
  | forwarded
  | accepted (result : PollResult)
  | written (update : StoreUpdate)
  | released
  deriving DecidableEq

/-- The stage a deed brings a job to; a dropped one says whether the polling had been called off. -/
def Deed.stage (calledOff : Bool) : Deed → Stage
  | queue device => .queued device
  | take _ => .taken
  | drop _ => .dropped calledOff
  | begin _ => .begun
  | conclude _ result => .concluded result
  | forward _ => .forwarded
  | accept result => .accepted result
  | write update => .written update
  | release => .released

/-- The stages of a job so far; a place without a job has none. -/
abbrev Job := List Stage

/-- The stages of a job of which a worker made a result, until the processor has it. -/
def Job.untilAccepted (device : Device) (result : PollResult) : Job :=
  [.queued device, .taken, .begun, .concluded result, .forwarded, .accepted result]

/-- The job was polled once, and its one result was accepted and all of it was written. -/
def Job.polled (device : Device) (result : PollResult) : Job :=
  untilAccepted device result ++ result.writes.map .written ++ [.released]

/-- The job was taken and dropped after the polling had been called off. -/
def Job.dropped (device : Device) : Job := [.queued device, .taken, .dropped true]

/-- The two ends a job can meet. -/
def Job.IsClosed (job : Job) : Prop :=
  (∃ device result, job = polled device result) ∨ ∃ device, job = dropped device

/-- The jobs by where they are: queued, with a worker, on the way to the processor, with it, or closed. -/
structure Ledger where
  queued : List Job
  held : List Job
  forwarded : List Job
  current : Job
  closed : List Job

namespace Ledger

def blank (workers : Nat) : Ledger := ⟨[], List.replicate workers [], [], [], []⟩

def heldBy (ledger : Ledger) (worker : Nat) : Job := ledger.held[worker]?.getD []

def note (calledOff : Bool) (ledger : Ledger) (deed : Deed) : Ledger :=
  let stage := deed.stage calledOff
  match deed with
  | .queue _ => { ledger with queued := ledger.queued ++ [[stage]] }
  | .take worker =>
    { ledger with
      queued := ledger.queued.tail
      held := ledger.held.set worker (ledger.queued.headD [] ++ [stage]) }
  | .drop worker =>
    { ledger with
      held := ledger.held.set worker []
      closed := ledger.closed ++ [ledger.heldBy worker ++ [stage]] }
  | .begin worker => { ledger with held := ledger.held.set worker (ledger.heldBy worker ++ [stage]) }
  | .conclude worker _ =>
    { ledger with held := ledger.held.set worker (ledger.heldBy worker ++ [stage]) }
  | .forward worker =>
    { ledger with
      held := ledger.held.set worker []
      forwarded := ledger.forwarded ++ [ledger.heldBy worker ++ [stage]] }
  | .accept _ =>
    { ledger with
      forwarded := ledger.forwarded.tail
      current := ledger.forwarded.headD [] ++ [stage] }
  | .write _ => { ledger with current := ledger.current ++ [stage] }
  | .release =>
    { ledger with
      current := []
      closed := ledger.closed ++ [ledger.current ++ [stage]] }

def stages (ledger : Ledger) : List Stage :=
  ledger.queued.flatten ++ (ledger.held.flatten ++ (ledger.forwarded.flatten
    ++ (ledger.current ++ ledger.closed.flatten)))

end Ledger

def WorkerPhase.Has : WorkerPhase → Job → Prop
  | waiting, job => job = []
  | holding device, job => job = [.queued device, .taken]
  | polling device _, job => job = [.queued device, .taken, .begun]
  | forwarding result, job => ∃ device, job = [.queued device, .taken, .begun, .concluded result]
  | ended, job => job = []

def ProcessorPhase.Has : ProcessorPhase → Job → Prop
  | waiting, job => job = []
  | writing result rest, job => ∃ device done,
    result.writes = done ++ rest ∧ job = Job.untilAccepted device result ++ done.map .written
  | ended, job => job = []

namespace Pipeline

variable {σ : Type} [Store σ]

def Step.stage? (step : Step σ) : Option Stage := step.deed?.map (Deed.stage step.before.cancelled)

/-- Everything that happened to a job in a run, in order. -/
def journal (steps : List (Step σ)) : List Stage := steps.filterMap Step.stage?

def Step.note (ledger : Ledger) (step : Step σ) : Ledger :=
  (step.deed?.map (ledger.note step.before.cancelled)).getD ledger

/-- The ledger of a number of workers after the steps of a run. -/
def ledger (workers : Nat) (steps : List (Step σ)) : Ledger :=
  steps.foldl Step.note (Ledger.blank workers)

/-- The ledger tells where every job is in the pipeline, and has all that the journal has. -/
structure Follows (pipeline : Pipeline σ) (ledger : Ledger) (journal : List Stage) : Prop where
  queued : List.Forall₂ (fun device job => job = [Stage.queued device])
    pipeline.work.items ledger.queued
  held : List.Forall₂ WorkerPhase.Has pipeline.workers ledger.held
  forwarded : List.Forall₂ (fun result job => ∃ device,
      job = [Stage.queued device, .taken, .begun, .concluded result, .forwarded])
    pipeline.results.items ledger.forwarded
  current : pipeline.processor.Has ledger.current
  closed : ∀ job ∈ ledger.closed, job.IsClosed
  stages : ∀ stage, ledger.stages.count stage = journal.count stage

omit [Store σ] in
theorem follows_create (settings : PollerSettings) (store : σ) (now : Instant) :
    (create settings store now).Follows (Ledger.blank (max settings.workerCount 1)) [] where
  queued := .nil
  held := by
    show List.Forall₂ _ (List.replicate _ _) (List.replicate _ _)
    induction max settings.workerCount 1 with
    | zero => exact .nil
    | succ count ih => exact .cons rfl ih
  forwarded := .nil
  current := rfl
  closed := by
    intro job hmem
    cases hmem
  stages stage := by
    have hheld : (List.replicate (max settings.workerCount 1) ([] : Job)).flatten = [] :=
      List.flatten_eq_nil_iff.2 fun job hmem => List.eq_of_mem_replicate hmem
    rw [Ledger.stages, Ledger.blank, hheld]
    rfl

/-! ### Every step keeps the ledger -/

section

variable {before next : Pipeline σ} {ledger : Ledger} {journal : List Stage} {deed : Option Deed}

omit [Store σ] in
theorem Follows.has_of_phase (hfollows : before.Follows ledger journal) {worker : Nat}
    {phase : WorkerPhase} (hphase : before.workers[worker]? = some phase) :
    ledger.held[worker]? = some (ledger.heldBy worker) ∧ phase.Has (ledger.heldBy worker) := by
  obtain ⟨job, hjob, hhas⟩ := forall₂_getElem? hfollows.held hphase
  have hheld : ledger.heldBy worker = job := by rw [Ledger.heldBy, hjob]; rfl
  rw [hheld]
  exact ⟨hjob, hhas⟩

omit [Store σ] in
theorem Follows.add_held (hfollows : before.Follows ledger journal) {worker : Nat}
    {phase new : WorkerPhase} {stage : Stage} (hphase : before.workers[worker]? = some phase)
    (hadd : ∀ job, phase.Has job → new.Has (job ++ [stage])) :
    (before.setWorker worker new).Follows
      { ledger with held := ledger.held.set worker (ledger.heldBy worker ++ [stage]) }
      (journal ++ [stage]) := by
  obtain ⟨hheld, hhas⟩ := hfollows.has_of_phase hphase
  refine { hfollows with held := forall₂_set hfollows.held worker (hadd _ hhas), stages := ?_ }
  intro other
  have hother := hfollows.stages other
  have hset := count_flatten_set (ledger.heldBy worker ++ [stage]) hheld other
  simp only [Ledger.stages, List.count_append] at hother hset ⊢
  omega

theorem Follows.step_of_effect (hfollows : before.Follows ledger journal)
    (hopen : before.results.isOpen = true) (heffect : before.Effect deed next) :
    next.Follows ((deed.map (ledger.note before.cancelled)).getD ledger)
      (journal ++ (deed.map (Deed.stage before.cancelled)).toList) := by
  have hsame : ∀ stage, ledger.stages.count stage = (journal ++ []).count stage := by
    simpa only [List.append_nil] using hfollows.stages
  cases heffect with
  | planned => exact { hfollows with stages := hsame }
  | claimed => exact { hfollows with stages := hsame }
  | refused => exact { hfollows with stages := hsame }
  | cancelled => exact { hfollows with stages := hsame }
  | advanced => exact { hfollows with stages := hsame }
  | sent _ _ _ _ hoffer =>
      obtain ⟨_, _, rfl⟩ := Queue.offer?_eq_some hoffer
      refine { hfollows with queued := ?_, stages := ?_ }
      · exact List.rel_append hfollows.queued (.cons rfl .nil)
      · intro stage
        have hstage := hfollows.stages stage
        simp only [Option.map_some, Option.getD_some, Option.toList_some, Deed.stage, Ledger.note,
          Ledger.stages, List.flatten_append, List.count_append] at hstage ⊢
        simp only [List.flatten_cons, List.flatten_nil, List.append_nil]
        omega
  | @taken worker device work hphase htake =>
      have hqueued := hfollows.queued
      rw [(Queue.take?_eq_some htake).1] at hqueued
      obtain ⟨job, queued, hjob, hrest, hledger⟩ := List.forall₂_cons_left_iff.1 hqueued
      obtain ⟨hheld, hhas⟩ := hfollows.has_of_phase hphase
      have hnone : ledger.heldBy worker = [] := hhas
      simp only [Option.map_some, Option.getD_some, Option.toList_some, Deed.stage, Ledger.note,
        hledger, List.tail_cons, List.headD_cons, hjob]
      refine { hfollows with queued := hrest, held := ?_, stages := ?_ }
      · exact forall₂_set hfollows.held worker rfl
      · intro stage
        have hstage := hfollows.stages stage
        have hset := count_flatten_set [Stage.queued device, Stage.taken] hheld stage
        simp only [Ledger.stages, hledger, hjob, List.flatten_cons, List.count_append,
          List.count_cons, List.count_nil, hnone, List.cons_append, List.nil_append] at hstage hset ⊢
        omega
  | begun hphase => exact hfollows.add_held hphase fun job hhas => by rw [hhas]; rfl
  | @concluded worker device startedAt ending result hphase =>
      exact hfollows.add_held hphase fun job hhas => ⟨device, by rw [hhas]; rfl⟩
  | @left worker hphase =>
      obtain ⟨hheld, hhas⟩ := hfollows.has_of_phase hphase
      have hheldSame : ledger.held.set worker [] = ledger.held := by
        obtain ⟨hlength, hnone⟩ := List.getElem?_eq_some_iff.1 (hhas ▸ hheld)
        rw [← hnone, List.set_getElem_self hlength]
      refine { hfollows with held := ?_, stages := hsame }
      have hset := forall₂_set hfollows.held worker (show WorkerPhase.ended.Has [] from rfl)
      rwa [hheldSame] at hset
  | @dropped worker device hphase hcancelled =>
      obtain ⟨hheld, hhas⟩ := hfollows.has_of_phase hphase
      simp only [Option.map_some, Option.getD_some, Option.toList_some, Deed.stage, Ledger.note,
        hcancelled]
      refine { hfollows with held := ?_, closed := ?_, stages := ?_ }
      · exact forall₂_set hfollows.held worker rfl
      · intro job hmem
        rcases List.mem_append.1 hmem with hold | hnew
        · exact hfollows.closed job hold
        · refine .inr ⟨device, ?_⟩
          rw [List.mem_singleton.1 hnew, hhas]
          rfl
      · intro stage
        have hstage := hfollows.stages stage
        have hset := count_flatten_set [] hheld stage
        simp only [Ledger.stages, List.flatten_append, List.flatten_cons, List.flatten_nil,
          List.append_nil, List.count_append, List.count_nil] at hstage hset ⊢
        omega
  | @forwarded worker result results hphase hoffer =>
      obtain ⟨hheld, device, hhas⟩ := hfollows.has_of_phase hphase
      refine { hfollows with held := ?_, forwarded := ?_, stages := ?_ }
      · exact forall₂_set hfollows.held worker rfl
      · rw [(Queue.offer?_eq_some hoffer).2.2]
        refine List.rel_append hfollows.forwarded (.cons ⟨device, ?_⟩ .nil)
        rw [hhas]
        rfl
      · intro stage
        have hstage := hfollows.stages stage
        have hset := count_flatten_set [] hheld stage
        simp only [Option.map_some, Option.getD_some, Option.toList_some, Ledger.note, Ledger.stages,
          List.flatten_append, List.flatten_cons, List.flatten_nil, List.append_nil,
          List.count_append, List.count_nil] at hstage hset ⊢
        omega
  | abandoned _ hclosed => exact absurd hclosed (by rw [hopen]; decide)
  | @accepted result results hphase htake =>
      have hforwarded := hfollows.forwarded
      rw [(Queue.take?_eq_some htake).1] at hforwarded
      obtain ⟨job, forwarded, ⟨device, hjob⟩, hrest, hledger⟩ :=
        List.forall₂_cons_left_iff.1 hforwarded
      have hcurrent : ledger.current = [] := by
        have hhas := hfollows.current
        rw [hphase] at hhas
        exact hhas
      simp only [Option.map_some, Option.getD_some, Option.toList_some, Deed.stage, Ledger.note,
        hledger, List.tail_cons, List.headD_cons, hjob]
      refine { hfollows with forwarded := hrest, current := ⟨device, [], rfl, rfl⟩, stages := ?_ }
      intro stage
      have hstage := hfollows.stages stage
      simp only [Ledger.stages, hledger, hjob, hcurrent, List.flatten_cons, List.count_append,
        List.count_nil] at hstage ⊢
      omega
  | @written result update rest tally hphase =>
      have hhas := hfollows.current
      rw [hphase] at hhas
      obtain ⟨device, done, hwrites, hjob⟩ := hhas
      refine { hfollows with current := ⟨device, done ++ [update], ?_, ?_⟩, stages := ?_ }
      · rw [hwrites, List.append_assoc]
        rfl
      · show ledger.current ++ _ = _
        rw [hjob, List.map_append, List.append_assoc]
        rfl
      · intro stage
        have hstage := hfollows.stages stage
        simp only [Option.map_some, Option.getD_some, Option.toList_some, Ledger.note, Ledger.stages,
          List.count_append] at hstage ⊢
        omega
  | @released result hphase =>
      have hhas := hfollows.current
      rw [hphase] at hhas
      obtain ⟨device, done, hwrites, hjob⟩ := hhas
      refine { hfollows with current := rfl, closed := ?_, stages := ?_ }
      · intro job hmem
        rcases List.mem_append.1 hmem with hold | hnew
        · exact hfollows.closed job hold
        · refine .inl ⟨device, result, ?_⟩
          rw [List.mem_singleton.1 hnew, hjob, Job.polled, hwrites, List.append_nil]
          rfl
      · intro stage
        have hstage := hfollows.stages stage
        simp only [Option.map_some, Option.getD_some, Option.toList_some, Ledger.note, Ledger.stages,
          List.flatten_append, List.flatten_cons, List.flatten_nil, List.append_nil,
          List.count_append, List.count_nil] at hstage ⊢
        omega
  | finished hphase =>
      have hhas := hfollows.current
      rw [hphase] at hhas
      exact { hfollows with current := hhas, stages := hsame }

end

/-! ### Runs -/

theorem Run.isOpen_results {start pipeline : Pipeline σ} {steps : List (Step σ)}
    (run : Run start steps pipeline) : pipeline.results.isOpen = start.results.isOpen :=
  run.invariant (·.results.isOpen = start.results.isOpen) (fun _ => True) rfl
    (fun hbefore _ hstep => (effect_of_step? hstep).isOpen_results.trans hbefore) fun _ _ => trivial

theorem journal_snoc (steps : List (Step σ)) (step : Step σ) :
    journal (steps ++ [step]) = journal steps ++ step.stage?.toList := by
  rw [journal, List.filterMap_append, ← journal]
  cases hstage : step.stage? <;> simp only [List.filterMap_cons, hstage] <;> rfl

theorem ledger_snoc (workers : Nat) (steps : List (Step σ)) (step : Step σ) :
    ledger workers (steps ++ [step]) = step.note (ledger workers steps) :=
  List.foldl_concat ..

/-- At every point of a run the ledger tells where the jobs are. -/
theorem Run.follows {settings : PollerSettings} {store : σ} {now : Instant}
    {steps : List (Step σ)} {pipeline : Pipeline σ}
    (run : Run (create settings store now) steps pipeline) :
    pipeline.Follows (ledger (max settings.workerCount 1) steps) (journal steps) := by
  induction run with
  | refl => exact follows_create settings store now
  | snoc run hstep ih =>
      rw [ledger_snoc, journal_snoc]
      exact ih.step_of_effect run.isOpen_results (effect_of_step? hstep)

end Pipeline

end RouterPoll
