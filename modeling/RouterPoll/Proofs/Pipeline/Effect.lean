import RouterPoll.Proofs.Pipeline.Progress

/-!
# What a move does

Everything the proofs about runs know about a single move of the pipeline. `Effect` lists what a move can do to the pipeline, each with the condition under which it does it, and `effect_of_step?` says that there is nothing else. The rest reaches the moves only through these names, so a change to one move changes this module and the cases it adds.

Of the scheduler three things matter here: the device it has in its hand, admitted and not yet in the work queue; how many devices it may still admit before it looks at the budget again; and the devices it was listed and is not yet done with.
-/

namespace RouterPoll

/-! ### The set of devices in flight, and queues -/

theorem InFlight.claim?_eq_some {inFlight next : InFlight} {id : Uuid}
    (hclaim : inFlight.claim? id = some next) :
    id ∉ inFlight.ids ∧ next.ids = inFlight.ids ++ [id] := by
  unfold InFlight.claim? InFlight.contains at hclaim
  split at hclaim
  · cases hclaim
  · rename_i hfresh
    cases hclaim
    exact ⟨by simpa using hfresh, rfl⟩

theorem InFlight.eq_of_claim? {inFlight next : InFlight} {id : Uuid} (hclaim : inFlight.claim? id = some next) :
    next = ⟨inFlight.ids ++ [id]⟩ := by
  cases next
  exact congrArg InFlight.mk (claim?_eq_some hclaim).2

theorem Queue.offer?_eq_some {α : Type} {queue next : Queue α} {item : α}
    (hoffer : queue.offer? item = some next) :
    queue.isOpen = true ∧ queue.items.length < queue.capacity
      ∧ next = { queue with items := queue.items ++ [item] } := by
  unfold Queue.offer? Queue.room at hoffer
  split at hoffer
  · rename_i hroom
    cases hoffer
    rw [Bool.and_eq_true, decide_eq_true_eq] at hroom
    exact ⟨hroom.1, by omega, rfl⟩
  · cases hoffer

theorem Queue.take?_eq_some {α : Type} {queue next : Queue α} {item : α}
    (htake : queue.take? = some (item, next)) :
    queue.items = item :: next.items ∧ next = { queue with items := next.items } := by
  unfold Queue.take? at htake
  split at htake
  · cases htake
  · rename_i items hitems
    cases htake
    exact ⟨hitems, rfl⟩

/-! ### The scheduler's part -/

namespace Duty

/-- The device the scheduler has in its hand. -/
def inHand? : Duty → Option Device
  | sending device _ _ _ => some device
  | sendingSingle device => some device
  | _ => none

/-- How many more devices the scheduler may admit before it looks at the budget again. -/
def allowance : Duty → Nat
  | checkingRoom budget => budget
  | sizing budget => budget
  | listing budget _ => budget
  | visiting budget admitted _ => budget - admitted
  | sending _ budget admitted _ => budget - (admitted + 1)
  | lookingUp _ => 1
  | claiming _ => 1
  | _ => 0

/-- The listed devices that a pass has neither passed over nor put into the work queue. -/
def remaining : Duty → List Device
  | visiting _ _ due => due
  | sending device _ _ due => device :: due
  | _ => []

end Duty

theorem Processor.write_eq {σ : Type} [Store σ] (now : Instant) (processor : Processor σ)
    (update : StoreUpdate) :
    ∃ tally, (tally = processor.tally ∨ tally = processor.tally.countError)
      ∧ processor.write now update
        = ⟨(update.run now processor.store).2, processor.inFlight, tally⟩ := by
  unfold Processor.write
  rcases update.run now processor.store with ⟨_ | _, store⟩
  · exact ⟨_, .inr rfl, rfl⟩
  · exact ⟨_, .inl rfl, rfl⟩

/-! ### Deeds -/

/-- What a move does to a job: the scheduler queues it, a worker takes it, drops it or begins to poll, concludes with a result and forwards that, and the processor accepts the result, writes it and releases the device. -/
inductive Deed where
  | queue (device : Device)
  | take (worker : Nat)
  | drop (worker : Nat)
  | begin (worker : Nat)
  | conclude (worker : Nat) (result : PollResult)
  | forward (worker : Nat)
  | accept (result : PollResult)
  | write (update : StoreUpdate)
  | release

namespace Pipeline

variable {σ : Type} [Store σ]

/-- The devices that the scheduler would be listed now, if that is what it is at. -/
def listing (pipeline : Pipeline σ) : List Device :=
  match pipeline.duty with
  | .listing _ limit =>
    match Store.readDue pipeline.store (fun _ => pipeline.now) pipeline.now limit with
    | .listed devices => devices
    | _ => []
  | _ => []

def deed? (pipeline : Pipeline σ) : Move → Option Deed
  | .proceed =>
    match pipeline.duty.inHand? with
    | some device =>
      if (pipeline.sendDevice device).1 then some (.queue (device.loaded pipeline.store)) else none
    | none => none
  | .take worker => some (.take worker)
  | .consider worker => some (if pipeline.cancelled then .drop worker else .begin worker)
  | .conclude worker ending =>
    match pipeline.workers[worker]? with
    | some (.polling device startedAt) =>
      (ending.toResult? device startedAt pipeline.now).map (.conclude worker)
    | _ => none
  | .forward worker => if pipeline.results.isOpen then some (.forward worker) else none
  | .accept => pipeline.results.items.head?.map .accept
  | .write =>
    match pipeline.processor with
    | .writing _ (update :: _) => some (.write update)
    | _ => none
  | .release => some .release
  | _ => none

/-- What a move can do to the pipeline, by its deed. -/
inductive Effect (pipeline : Pipeline σ) : Option Deed → Pipeline σ → Prop where
  | planned {duty : Duty} {reply : Option Reply} (hbefore : pipeline.duty.inHand? = none)
      (hafter : duty.inHand? = none) (hended : pipeline.duty.isEnded = false)
      (hallowance : duty.allowance ≤ max pipeline.duty.allowance pipeline.budget)
      (hremaining : duty.remaining.Sublist (pipeline.duty.remaining ++ pipeline.listing)) :
      Effect pipeline none { pipeline with duty, reply }
  | claimed {device : Device} {duty : Duty} {inFlight : InFlight}
      (hbefore : pipeline.duty.inHand? = none) (hafter : duty.inHand? = some device)
      (hended : pipeline.duty.isEnded = false) (hallowance : duty.allowance < pipeline.duty.allowance)
      (hremaining : duty.remaining.Sublist pipeline.duty.remaining)
      (hclaim : pipeline.inFlight.claim? device.id = some inFlight) :
      Effect pipeline none { pipeline with inFlight, duty }
  | sent {device : Device} {duty : Duty} {reply : Option Reply} {work : Queue Device}
      (hbefore : pipeline.duty.inHand? = some device) (hafter : duty.inHand? = none)
      (hallowance : duty.allowance ≤ pipeline.duty.allowance)
      (hremaining : duty.remaining.Sublist pipeline.duty.remaining.tail)
      (hoffer : pipeline.work.offer? (device.loaded pipeline.store) = some work) :
      Effect pipeline (some (.queue (device.loaded pipeline.store)))
        { pipeline with duty, reply, work }
  | refused {device : Device} {reply : Option Reply}
      (hbefore : pipeline.duty.inHand? = some device)
      (hoffer : pipeline.work.offer? (device.loaded pipeline.store) = none) :
      Effect pipeline none
        { pipeline with duty := .idle, reply, inFlight := pipeline.inFlight.release device.id }
  | taken {worker : Nat} {device : Device} {work : Queue Device}
      (hphase : pipeline.workers[worker]? = some .waiting)
      (htake : pipeline.work.take? = some (device, work)) :
      Effect pipeline (some (.take worker)) ({ pipeline with work }.setWorker worker (.holding device))
  | left {worker : Nat} (hphase : pipeline.workers[worker]? = some .waiting)
      (hempty : pipeline.work.items = []) (hended : pipeline.duty.isEnded = true) :
      Effect pipeline none (pipeline.setWorker worker .ended)
  | dropped {worker : Nat} {device : Device} (hphase : pipeline.workers[worker]? = some (.holding device))
      (hcancelled : pipeline.cancelled = true) :
      Effect pipeline (some (.drop worker))
        ({ pipeline with dropped := device.id :: pipeline.dropped }.setWorker worker .waiting)
  | begun {worker : Nat} {device : Device} (hphase : pipeline.workers[worker]? = some (.holding device))
      (hcancelled : pipeline.cancelled = false) :
      Effect pipeline (some (.begin worker))
        (pipeline.setWorker worker (.polling device pipeline.now))
  | concluded {worker : Nat} {device : Device} {startedAt : Instant} {ending : FallbackEnd}
      {result : PollResult} (hphase : pipeline.workers[worker]? = some (.polling device startedAt))
      (hresult : ending.toResult? device startedAt pipeline.now = some result) :
      Effect pipeline (some (.conclude worker result))
        (pipeline.setWorker worker (.forwarding result))
  | forwarded {worker : Nat} {result : PollResult} {results : Queue PollResult}
      (hphase : pipeline.workers[worker]? = some (.forwarding result))
      (hoffer : pipeline.results.offer? result = some results) :
      Effect pipeline (some (.forward worker)) ({ pipeline with results }.setWorker worker .waiting)
  | abandoned {worker : Nat} {result : PollResult}
      (hphase : pipeline.workers[worker]? = some (.forwarding result))
      (hclosed : pipeline.results.isOpen = false) :
      Effect pipeline none (pipeline.setWorker worker .ended)
  | accepted {result : PollResult} {results : Queue PollResult}
      (hphase : pipeline.processor = .waiting)
      (htake : pipeline.results.take? = some (result, results)) :
      Effect pipeline (some (.accept result))
        { pipeline with
          results
          processor := .writing result result.writes
          tally := pipeline.tally.count result }
  | written {result : PollResult} {update : StoreUpdate} {rest : List StoreUpdate} {tally : Tally}
      (hphase : pipeline.processor = .writing result (update :: rest))
      (htally : tally = pipeline.tally ∨ tally = pipeline.tally.countError) :
      Effect pipeline (some (.write update))
        { pipeline with
          store := (update.run pipeline.now pipeline.store).2
          tally
          processor := .writing result rest }
  | released {result : PollResult} (hphase : pipeline.processor = .writing result []) :
      Effect pipeline (some .release)
        { pipeline with
          inFlight := pipeline.inFlight.release result.deviceId
          processor := .waiting }
  | finished (hphase : pipeline.processor = .waiting) (hempty : pipeline.results.items = [])
      (hended : ∀ phase ∈ pipeline.workers, phase = .ended) :
      Effect pipeline none { pipeline with processor := .ended }
  | cancelled : Effect pipeline none { pipeline with cancelled := true }
  | advanced {now : Instant} (hclock : now.before pipeline.now = false) :
      Effect pipeline none { pipeline with now }

variable {pipeline next : Pipeline σ}

/-! ### Every move has one of these effects -/

theorem effect_of_planning {before duty : Duty} {reply : Option Reply}
    (hduty : pipeline.duty = before) (hbefore : before.inHand? = none)
    (hended : before.isEnded = false) (hafter : duty.inHand? = none)
    (hallowance : duty.allowance ≤ max before.allowance pipeline.budget)
    (hremaining : duty.remaining.Sublist (before.remaining ++ pipeline.listing)) :
    pipeline.Effect none { pipeline with duty, reply } := by
  subst hduty
  exact .planned hbefore hafter hended hallowance hremaining

theorem effect_of_answer {before : Duty} {reply : Reply} (hduty : pipeline.duty = before)
    (hbefore : before.inHand? = none) (hended : before.isEnded = false) :
    pipeline.Effect none (pipeline.answer reply) :=
  effect_of_planning hduty hbefore hended rfl (Nat.zero_le _) (List.nil_sublist _)

theorem effect_of_beginPass? (hstep : pipeline.beginPass? = some next) : pipeline.Effect none next := by
  unfold beginPass? at hstep
  split at hstep
  · rename_i hidle
    split at hstep
    · cases hstep
    · split at hstep
      · cases hstep
        exact effect_of_answer hidle rfl rfl
      · cases hstep
        exact effect_of_planning hidle rfl rfl rfl (Nat.le_max_right _ _) (List.nil_sublist _)
  · cases hstep

theorem effect_of_beginSingle? {id : Uuid} (hstep : pipeline.beginSingle? id = some next) :
    pipeline.Effect none next := by
  unfold beginSingle? at hstep
  split at hstep
  · rename_i hidle
    split at hstep
    · cases hstep
    · split at hstep
      · cases hstep
        exact effect_of_answer hidle rfl rfl
      · rename_i hbudget
        cases hstep
        have hroom : 1 ≤ pipeline.budget := by
          rw [beq_iff_eq] at hbudget
          omega
        exact effect_of_planning hidle rfl rfl rfl (Nat.le_trans hroom (Nat.le_max_right _ _))
          (List.nil_sublist _)
  · cases hstep

theorem Progress.deed?_eq {queued : Option Device} (hprogress : pipeline.Progress queued next) :
    pipeline.deed? .proceed = queued.map .queue := by
  cases hprogress with
  | sent hduty hoffer => simp [deed?, hduty, Duty.inHand?, sendDevice_of_some hoffer]
  | shed hduty hoffer => simp [deed?, hduty, Duty.inHand?, sendDevice_of_none hoffer]
  | sentSingle hduty hoffer => simp [deed?, hduty, Duty.inHand?, sendDevice_of_some hoffer]
  | shedSingle hduty hoffer => simp [deed?, hduty, Duty.inHand?, sendDevice_of_none hoffer]
  | _ => simp [*, deed?, Duty.inHand?]

theorem Progress.effect {queued : Option Device} (hprogress : pipeline.Progress queued next) :
    pipeline.Effect (queued.map .queue) next := by
  cases hprogress with
  | full hduty hfull => exact effect_of_answer hduty rfl rfl
  | roomy hduty hroom => exact effect_of_planning hduty rfl rfl rfl (Nat.le_max_left _ _) (List.nil_sublist _)
  | sized hduty => exact effect_of_planning hduty rfl rfl rfl (Nat.le_max_left _ _) (List.nil_sublist _)
  | unlisted hduty hlisted => exact effect_of_answer hduty rfl rfl
  | crashed hduty hlisted => exact effect_of_planning hduty rfl rfl rfl (Nat.zero_le _) (List.nil_sublist _)
  | @listed budget limit devices hduty hlisted =>
      have hlisting : pipeline.listing = devices := by simp only [listing, hduty, hlisted]
      refine effect_of_planning hduty rfl rfl rfl (Nat.le_max_left _ _) ?_
      rw [hlisting]
      exact List.sublist_append_right _ _
  | finished hduty hover => exact effect_of_answer hduty rfl rfl
  | passedOver hduty hbudget hclaim =>
      exact effect_of_planning hduty rfl rfl rfl (Nat.le_max_left _ _)
        ((List.sublist_cons_self _ _).trans (List.sublist_append_left _ _))
  | claimed hduty hbudget hclaim =>
      refine .claimed (by rw [hduty]; rfl) rfl (by rw [hduty]; rfl) ?_ ?_ hclaim
      · rw [hduty]
        simp only [Duty.allowance]
        omega
      · rw [hduty]
        exact List.Sublist.refl _
  | sent hduty hoffer =>
      refine .sent (by rw [hduty]; rfl) rfl ?_ ?_ hoffer
      · rw [hduty]
        exact Nat.le_refl _
      · rw [hduty]
        exact List.Sublist.refl _
  | shed hduty hoffer => exact .refused (by rw [hduty]; rfl) hoffer
  | unread hduty hfound => exact effect_of_answer hduty rfl rfl
  | unknown hduty hfound => exact effect_of_answer hduty rfl rfl
  | found hduty hfound => exact effect_of_planning hduty rfl rfl rfl (Nat.le_max_left _ _) (List.nil_sublist _)
  | passedOverSingle hduty hclaim => exact effect_of_answer hduty rfl rfl
  | claimedSingle hduty hclaim =>
      refine .claimed (by rw [hduty]; rfl) rfl (by rw [hduty]; rfl) ?_ (List.nil_sublist _) hclaim
      rw [hduty]
      exact Nat.zero_lt_one
  | sentSingle hduty hoffer =>
      exact .sent (by rw [hduty]; rfl) rfl (Nat.zero_le _) (List.nil_sublist _) hoffer
  | shedSingle hduty hoffer => exact .refused (by rw [hduty]; rfl) hoffer

theorem effect_of_proceed? (hstep : pipeline.proceed? = some next) :
    pipeline.Effect (pipeline.deed? .proceed) next := by
  obtain ⟨queued, hprogress⟩ := progress_of_proceed? hstep
  rw [hprogress.deed?_eq]
  exact hprogress.effect

theorem effect_of_stop? (hstep : pipeline.stop? = some next) : pipeline.Effect none next := by
  unfold stop? at hstep
  split at hstep
  · rename_i hidle
    split at hstep
    · cases hstep
      exact effect_of_planning hidle rfl rfl rfl (Nat.zero_le _) (List.nil_sublist _)
    · cases hstep
  · cases hstep

theorem effect_of_take? {worker : Nat} (hstep : pipeline.take? worker = some next) :
    pipeline.Effect (some (.take worker)) next := by
  unfold take? at hstep
  split at hstep
  · rename_i device work hphase htake
    cases hstep
    exact .taken hphase htake
  · cases hstep

theorem effect_of_leave? {worker : Nat} (hstep : pipeline.leave? worker = some next) :
    pipeline.Effect none next := by
  unfold leave? at hstep
  split at hstep
  · rename_i hphase
    split at hstep
    · rename_i hdone
      cases hstep
      rw [Bool.and_eq_true, List.isEmpty_iff] at hdone
      exact .left hphase hdone.1 hdone.2
    · cases hstep
  · cases hstep

theorem effect_of_consider? {worker : Nat} (hstep : pipeline.consider? worker = some next) :
    pipeline.Effect (pipeline.deed? (.consider worker)) next := by
  unfold consider? at hstep
  split at hstep
  · rename_i device hphase
    by_cases hcancelled : pipeline.cancelled = true
    · have hdeed : pipeline.deed? (.consider worker) = some (.drop worker) :=
        congrArg some (if_pos hcancelled)
      rw [if_pos hcancelled] at hstep
      cases hstep
      rw [hdeed]
      exact .dropped hphase hcancelled
    · have hdeed : pipeline.deed? (.consider worker) = some (.begin worker) :=
        congrArg some (if_neg hcancelled)
      rw [if_neg hcancelled] at hstep
      cases hstep
      rw [hdeed]
      exact .begun hphase (Bool.not_eq_true _ ▸ hcancelled)
  · cases hstep

theorem effect_of_conclude? {worker : Nat} {ending : FallbackEnd}
    (hstep : pipeline.conclude? worker ending = some next) :
    pipeline.Effect (pipeline.deed? (.conclude worker ending)) next := by
  unfold conclude? at hstep
  split at hstep
  · rename_i device startedAt hphase
    obtain ⟨result, hresult, rfl⟩ := Option.map_eq_some_iff.1 hstep
    simp only [deed?, hphase, hresult, Option.map_some]
    exact .concluded hphase hresult
  · cases hstep

theorem effect_of_forward? {worker : Nat} (hstep : pipeline.forward? worker = some next) :
    pipeline.Effect (pipeline.deed? (.forward worker)) next := by
  unfold forward? at hstep
  split at hstep
  · rename_i result hphase
    cases hopen : pipeline.results.isOpen with
    | true =>
        simp only [hopen, Bool.not_true, Bool.false_eq_true, if_false] at hstep
        obtain ⟨results, hoffer, rfl⟩ := Option.map_eq_some_iff.1 hstep
        have hdeed : pipeline.deed? (.forward worker) = some (.forward worker) := if_pos hopen
        rw [hdeed]
        exact .forwarded hphase hoffer
    | false =>
        simp only [hopen, Bool.not_false, if_true] at hstep
        cases hstep
        have hdeed : pipeline.deed? (.forward worker) = none := if_neg (Bool.not_eq_true _ ▸ hopen)
        rw [hdeed]
        exact .abandoned hphase hopen
  · cases hstep

theorem effect_of_accept? (hstep : pipeline.accept? = some next) :
    pipeline.Effect (pipeline.deed? .accept) next := by
  unfold accept? at hstep
  split at hstep
  · rename_i result results hphase htake
    cases hstep
    have hhead : pipeline.results.items.head? = some result := by
      rw [(Queue.take?_eq_some htake).1]
      rfl
    have hdeed : pipeline.deed? .accept = some (.accept result) :=
      congrArg (Option.map Deed.accept) hhead
    rw [hdeed]
    exact .accepted hphase htake
  · cases hstep

theorem effect_of_write? (hstep : pipeline.write? = some next) :
    pipeline.Effect (pipeline.deed? .write) next := by
  unfold write? at hstep
  split at hstep
  · rename_i result update rest hphase
    obtain ⟨tally, htally, hwrite⟩ := Processor.write_eq pipeline.now
      ⟨pipeline.store, pipeline.inFlight, pipeline.tally⟩ update
    simp only [hwrite] at hstep
    cases hstep
    simp only [deed?, hphase]
    exact .written hphase htally
  · cases hstep

theorem effect_of_release? (hstep : pipeline.release? = some next) :
    pipeline.Effect (some .release) next := by
  unfold release? at hstep
  split at hstep
  · rename_i result hphase
    cases hstep
    exact .released hphase
  · cases hstep

theorem effect_of_finish? (hstep : pipeline.finish? = some next) : pipeline.Effect none next := by
  unfold finish? at hstep
  split at hstep
  · rename_i hphase
    split at hstep
    · rename_i hdone
      cases hstep
      rw [Bool.and_eq_true, List.isEmpty_iff, List.all_eq_true] at hdone
      exact .finished hphase hdone.1 fun phase hmem => eq_of_beq (hdone.2 phase hmem)
    · cases hstep
  · cases hstep

/-- A move that is possible has an effect, and its deed is the deed of the move. -/
theorem effect_of_step? {move : Move} (hstep : pipeline.step? move = some next) :
    pipeline.Effect (pipeline.deed? move) next := by
  cases move with
  | beginPass => exact effect_of_beginPass? hstep
  | beginSingle id => exact effect_of_beginSingle? hstep
  | proceed => exact effect_of_proceed? hstep
  | stop => exact effect_of_stop? hstep
  | take worker => exact effect_of_take? hstep
  | leave worker => exact effect_of_leave? hstep
  | consider worker => exact effect_of_consider? hstep
  | conclude worker ending => exact effect_of_conclude? hstep
  | forward worker => exact effect_of_forward? hstep
  | accept => exact effect_of_accept? hstep
  | write => exact effect_of_write? hstep
  | release => exact effect_of_release? hstep
  | finish => exact effect_of_finish? hstep
  | cancel =>
      cases hstep
      exact .cancelled
  | advance now =>
      simp only [step?] at hstep
      split at hstep
      · cases hstep
      · rename_i hclock
        cases hstep
        exact .advanced (Bool.not_eq_true _ ▸ hclock)

end Pipeline

end RouterPoll
