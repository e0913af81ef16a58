import RouterPoll.Proofs.Pipeline.Effect
import RouterPoll.Proofs.Store.Memory

/-!
# Runs

A run of the pipeline from a state on is a list of steps, each of them a move that is possible where the one before it led. The parts move in any order, and the polling may be called off at any point, so what holds of every run holds of every interleaving.

What a poll brings back is up to the adapters. The one thing that is asked of them is that a result is about the device that was polled; a run in which they keep to it is faithful.
-/

namespace RouterPoll

/-- A poll that brings back a result brings back one of the device it was about. -/
def FallbackEnd.IsAbout (device : Device) : FallbackEnd → Prop
  | .settled (.ok result) => result.deviceId = device.id
  | _ => True

instance (device : Device) : DecidablePred (FallbackEnd.IsAbout device)
  | .settled (.ok result) => inferInstanceAs (Decidable (result.deviceId = device.id))
  | .settled (.error _) => isTrue trivial
  | .crashed => isTrue trivial
  | .stalled => isTrue trivial

theorem FallbackEnd.IsAbout.deviceId_eq {device : Device} {startedAt now : Instant}
    {ending : FallbackEnd} {result : PollResult} (habout : ending.IsAbout device)
    (hresult : ending.toResult? device startedAt now = some result) :
    result.deviceId = device.id := by
  cases ending with
  | settled answer =>
      cases answer with
      | ok answered =>
          cases hresult
          exact habout
      | error error => cases error <;> (cases hresult; rfl)
  | crashed =>
      cases hresult
      rfl
  | stalled => cases hresult

def Move.isScheduling : Move → Bool
  | .beginPass => true
  | .beginSingle _ => true
  | .proceed => true
  | .stop => true
  | _ => false

namespace Pipeline

variable {σ : Type} [Store σ]

/-! ### Moves of other parts than the scheduler -/

/-- What is left as it was by a move that is not the scheduler's: what the scheduler is at and the answer it gave, and, except for the one kind of move each is there for, whether the polling is called off and the two places a device goes to when it is admitted. -/
structure LeavesScheduler (before next : Pipeline σ) (move : Move) : Prop where
  duty : next.duty = before.duty
  reply : next.reply = before.reply
  cancelled : move ≠ .cancel → next.cancelled = before.cancelled
  inFlight : move ≠ .release → next.inFlight = before.inFlight
  work : (∀ worker, move ≠ .take worker) → next.work = before.work

theorem leavesScheduler_of_step? {before next : Pipeline σ} {move : Move} (hother : move.isScheduling = false)
    (hstep : before.step? move = some next) : before.LeavesScheduler next move := by
  cases move with
  | beginPass => cases hother
  | beginSingle id => cases hother
  | proceed => cases hother
  | stop => cases hother
  | take worker =>
      cases effect_of_take? hstep
      exact ⟨rfl, rfl, fun _ => rfl, fun _ => rfl, fun htake => absurd rfl (htake worker)⟩
  | release =>
      cases effect_of_release? hstep
      exact ⟨rfl, rfl, fun _ => rfl, fun hrelease => absurd rfl hrelease, fun _ => rfl⟩
  | cancel =>
      cases hstep
      exact ⟨rfl, rfl, fun hcancel => absurd rfl hcancel, fun _ => rfl, fun _ => rfl⟩
  | consider worker =>
      simp only [step?, consider?] at hstep
      split at hstep
      · split at hstep
        · cases hstep
          exact ⟨rfl, rfl, fun _ => rfl, fun _ => rfl, fun _ => rfl⟩
        · cases hstep
          exact ⟨rfl, rfl, fun _ => rfl, fun _ => rfl, fun _ => rfl⟩
      · cases hstep
  | leave worker =>
      simp only [step?, leave?] at hstep
      split at hstep
      · split at hstep
        · cases hstep
          exact ⟨rfl, rfl, fun _ => rfl, fun _ => rfl, fun _ => rfl⟩
        · cases hstep
      · cases hstep
  | conclude worker ending =>
      simp only [step?, conclude?] at hstep
      split at hstep
      · obtain ⟨result, _, rfl⟩ := Option.map_eq_some_iff.1 hstep
        exact ⟨rfl, rfl, fun _ => rfl, fun _ => rfl, fun _ => rfl⟩
      · cases hstep
  | forward worker =>
      simp only [step?, forward?] at hstep
      split at hstep
      · split at hstep
        · cases hstep
          exact ⟨rfl, rfl, fun _ => rfl, fun _ => rfl, fun _ => rfl⟩
        · obtain ⟨results, _, rfl⟩ := Option.map_eq_some_iff.1 hstep
          exact ⟨rfl, rfl, fun _ => rfl, fun _ => rfl, fun _ => rfl⟩
      · cases hstep
  | accept =>
      simp only [step?, accept?] at hstep
      split at hstep
      · cases hstep
        exact ⟨rfl, rfl, fun _ => rfl, fun _ => rfl, fun _ => rfl⟩
      · cases hstep
  | write =>
      simp only [step?, write?] at hstep
      split at hstep
      · rename_i result update rest _
        obtain ⟨tally, _, hwrite⟩ := Processor.write_eq before.now
          ⟨before.store, before.inFlight, before.tally⟩ update
        rw [hwrite] at hstep
        cases hstep
        exact ⟨rfl, rfl, fun _ => rfl, fun _ => rfl, fun _ => rfl⟩
      · cases hstep
  | finish =>
      simp only [step?, finish?] at hstep
      split at hstep
      · split at hstep
        · cases hstep
          exact ⟨rfl, rfl, fun _ => rfl, fun _ => rfl, fun _ => rfl⟩
        · cases hstep
      · cases hstep
  | advance now =>
      simp only [step?] at hstep
      split at hstep
      · cases hstep
      · cases hstep
        exact ⟨rfl, rfl, fun _ => rfl, fun _ => rfl, fun _ => rfl⟩

/-! ### Runs of moves -/

/-- A move, and the pipeline it was made in. -/
structure Step (σ : Type) where
  before : Pipeline σ
  move : Move

def Step.deed? (step : Step σ) : Option Deed := step.before.deed? step.move

/-- The device whose poll ends in a step, and how it ends. -/
def Step.conclusion? (step : Step σ) : Option (Device × FallbackEnd) :=
  match step.move with
  | .conclude worker ending =>
    match step.before.workers[worker]? with
    | some (.polling device _) => some (device, ending)
    | _ => none
  | _ => none

/-- A step is faithful unless a worker concludes with a result that is not about the device it polled. -/
def Step.IsFaithful (step : Step σ) : Prop :=
  ∀ conclusion ∈ step.conclusion?, conclusion.2.IsAbout conclusion.1

instance (step : Step σ) : Decidable step.IsFaithful :=
  inferInstanceAs (Decidable (∀ conclusion ∈ step.conclusion?, conclusion.2.IsAbout conclusion.1))

/-- The steps of a run, the first one first, and the pipeline they lead to. -/
inductive Run (start : Pipeline σ) : List (Step σ) → Pipeline σ → Prop where
  | refl : Run start [] start
  | snoc {steps : List (Step σ)} {pipeline next : Pipeline σ} {move : Move}
      (run : Run start steps pipeline) (hstep : pipeline.step? move = some next) :
      Run start (steps ++ [⟨pipeline, move⟩]) next

/-- A property of pipelines that every step of a run keeps holds at its end. -/
theorem Run.invariant {start pipeline : Pipeline σ} {steps : List (Step σ)}
    (holds : Pipeline σ → Prop) (allowed : Step σ → Prop) (hstart : holds start)
    (hkeep : ∀ {before next move}, holds before → allowed ⟨before, move⟩ →
      before.step? move = some next → holds next)
    (run : Run start steps pipeline) (hallowed : ∀ step ∈ steps, allowed step) :
    holds pipeline := by
  induction run with
  | refl => exact hstart
  | snoc run hstep ih =>
      have hbefore := ih fun step hmem => hallowed step (List.mem_append_left _ hmem)
      exact hkeep hbefore (hallowed _ (List.mem_append_right _ (List.mem_singleton.2 rfl))) hstep

theorem Run.invariant_before {start pipeline : Pipeline σ} {steps : List (Step σ)}
    (holds : Pipeline σ → Prop) (hstart : holds start)
    (hkeep : ∀ {before next move}, holds before → before.step? move = some next → holds next)
    (run : Run start steps pipeline) : ∀ step ∈ steps, holds step.before := by
  induction run with
  | refl =>
      intro step hmem
      cases hmem
  | snoc run _ ih =>
      intro step hmem
      rcases List.mem_append.1 hmem with hold | hnew
      · exact ih step hold
      · rw [List.mem_singleton.1 hnew]
        exact run.invariant holds (fun _ => True) hstart (fun hbefore _ => hkeep hbefore)
          fun _ _ => trivial

theorem Run.append {start pipeline last : Pipeline σ} {steps more : List (Step σ)}
    (run : Run start steps pipeline) (next : Run pipeline more last) : Run start (steps ++ more) last := by
  induction next with
  | refl =>
      rw [List.append_nil]
      exact run
  | snoc _ hstep ih =>
      rw [← List.append_assoc]
      exact ih.snoc hstep

/-! ### Following a list of moves -/

/-- The run that a list of moves gives, where all of them are possible. -/
def follow? (pipeline : Pipeline σ) : List Move → Option (List (Step σ) × Pipeline σ)
  | [] => some ([], pipeline)
  | move :: moves => do
    let next ← pipeline.step? move
    let (steps, last) ← next.follow? moves
    return (⟨pipeline, move⟩ :: steps, last)

theorem Run.follow {start pipeline last : Pipeline σ} {steps more : List (Step σ)}
    {moves : List Move} (run : Run start steps pipeline)
    (hfollow : pipeline.follow? moves = some (more, last)) : Run start (steps ++ more) last := by
  induction moves generalizing steps more pipeline with
  | nil =>
      cases hfollow
      rw [List.append_nil]
      exact run
  | cons move moves ih =>
      simp only [follow?, Option.bind_eq_bind, Option.bind_eq_some_iff] at hfollow
      obtain ⟨next, hstep, ⟨rest, _⟩, hrest, hlast⟩ := hfollow
      cases hlast
      have hnext := ih (run.snoc hstep) hrest
      rwa [List.append_assoc, List.singleton_append] at hnext

/-! ### A small pipeline -/

def sample : Pipeline MemoryStore :=
  create { PollerSettings.default with workerCount := 2, concurrentPolls := 2 }
    .sample ⟨1000, 0⟩

/-- Both devices are admitted; one is polled, and the job of the other is dropped, because the polling is called off. -/
def sampleMoves : List Move :=
  [.beginSingle ⟨1⟩, .proceed, .proceed, .proceed, .beginSingle ⟨2⟩, .proceed, .proceed, .proceed,
    .take 0, .consider 0, .take 1, .cancel, .consider 1,
    .conclude 0 (.settled (.ok ((PollResult.start (.sample 1) "snmp" ⟨1000, 0⟩).succeed ⟨1001, 0⟩))),
    .forward 0, .accept]

end Pipeline

end RouterPoll
