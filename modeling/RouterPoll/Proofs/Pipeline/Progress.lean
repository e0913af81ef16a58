import RouterPoll.Pipeline.State

/-!
# How the scheduler goes on

Everything the proofs know about a single step of the scheduler while it carries out a command. `Progress` has one case for each thing the scheduler can do when it goes on, with the condition under which it does it and what comes of it, and `progress_of_proceed?` says that there is nothing else. The steps of a pass and those towards a single device stand side by side, so a change to one of them changes one case here and those that look at it.
-/

namespace RouterPoll

@[simp] theorem Device.loaded_id {σ : Type} [Store σ] (device : Device) (store : σ) :
    (device.loaded store).id = device.id := by
  have hcapabilities : (device.withCapabilities store).id = device.id := by
    unfold Device.withCapabilities
    split <;> rfl
  unfold Device.loaded Device.withRoles
  split <;> exact hcapabilities

namespace Pipeline

variable {σ : Type} [Store σ]

variable {pipeline next : Pipeline σ} {device : Device}

theorem sendDevice_of_some {work : Queue Device}
    (hoffer : pipeline.work.offer? (device.loaded pipeline.store) = some work) :
    pipeline.sendDevice device = (true, { pipeline with work }) := by
  simp [sendDevice, Admission.send, hoffer]

theorem sendDevice_of_none (hoffer : pipeline.work.offer? (device.loaded pipeline.store) = none) :
    pipeline.sendDevice device
      = (false, { pipeline with inFlight := pipeline.inFlight.release device.id }) := by
  simp [sendDevice, Admission.send, hoffer]

/-- What the scheduler does when it goes on, by what it is at, with the device it puts into the work queue, if it does so, and the pipeline after that. -/
inductive Progress (pipeline : Pipeline σ) : Option Device → Pipeline σ → Prop where
  | full {budget : Nat} (hduty : pipeline.duty = .checkingRoom budget) (hfull : pipeline.work.room = 0) :
      Progress pipeline none (pipeline.answer (.ok (.admitted 0)))
  | roomy {budget : Nat} (hduty : pipeline.duty = .checkingRoom budget) (hroom : 0 < pipeline.work.room) :
      Progress pipeline none { pipeline with duty := .sizing budget }
  | sized {budget : Nat} (hduty : pipeline.duty = .sizing budget) :
      Progress pipeline none { pipeline with duty := .listing budget (budget + pipeline.inFlight.size) }
  | unlisted {budget limit : Nat} {error : StorageError} (hduty : pipeline.duty = .listing budget limit)
      (hlisted : Store.readDue pipeline.store (fun _ => pipeline.now) pipeline.now limit = .refused error) :
      Progress pipeline none (pipeline.answer (.error (.listing error)))
  | crashed {budget limit : Nat} (hduty : pipeline.duty = .listing budget limit)
      (hlisted : Store.readDue pipeline.store (fun _ => pipeline.now) pipeline.now limit = .overflowed) :
      Progress pipeline none { pipeline with duty := .ended false, reply := some (.error .crashed) }
  | listed {budget limit : Nat} {devices : List Device} (hduty : pipeline.duty = .listing budget limit)
      (hlisted : Store.readDue pipeline.store (fun _ => pipeline.now) pipeline.now limit = .listed devices) :
      Progress pipeline none { pipeline with duty := .visiting budget 0 devices }
  | finished {budget admitted : Nat} {due : List Device} (hduty : pipeline.duty = .visiting budget admitted due)
      (hover : due = [] ∨ budget ≤ admitted ∨ pipeline.cancelled = true) :
      Progress pipeline none (pipeline.answer (.ok (.admitted admitted)))
  | passedOver {budget admitted : Nat} {device : Device} {due : List Device}
      (hduty : pipeline.duty = .visiting budget admitted (device :: due)) (hbudget : admitted < budget)
      (hclaim : pipeline.inFlight.claim? device.id = none) :
      Progress pipeline none { pipeline with duty := .visiting budget admitted due }
  | claimed {budget admitted : Nat} {device : Device} {due : List Device} {inFlight : InFlight}
      (hduty : pipeline.duty = .visiting budget admitted (device :: due)) (hbudget : admitted < budget)
      (hclaim : pipeline.inFlight.claim? device.id = some inFlight) :
      Progress pipeline none { pipeline with inFlight, duty := .sending device budget admitted due }
  | sent {device : Device} {budget admitted : Nat} {due : List Device} {work : Queue Device}
      (hduty : pipeline.duty = .sending device budget admitted due)
      (hoffer : pipeline.work.offer? (device.loaded pipeline.store) = some work) :
      Progress pipeline (some (device.loaded pipeline.store))
        { pipeline with work, duty := .visiting budget (admitted + 1) due }
  | shed {device : Device} {budget admitted : Nat} {due : List Device}
      (hduty : pipeline.duty = .sending device budget admitted due)
      (hoffer : pipeline.work.offer? (device.loaded pipeline.store) = none) :
      Progress pipeline none ({ pipeline with
        inFlight := pipeline.inFlight.release device.id }.answer (.ok (.admitted admitted)))
  | unread {id : Uuid} {error : StorageError} (hduty : pipeline.duty = .lookingUp id)
      (hfound : Store.readDevice? pipeline.store pipeline.now id = .error error) :
      Progress pipeline none (pipeline.answer (.error (.lookup error)))
  | unknown {id : Uuid} (hduty : pipeline.duty = .lookingUp id)
      (hfound : Store.readDevice? pipeline.store pipeline.now id = .ok none) :
      Progress pipeline none (pipeline.answer (.error (.unknownDevice id)))
  | found {id : Uuid} {device : Device} (hduty : pipeline.duty = .lookingUp id)
      (hfound : Store.readDevice? pipeline.store pipeline.now id = .ok (some device)) :
      Progress pipeline none { pipeline with duty := .claiming device }
  | passedOverSingle {device : Device} (hduty : pipeline.duty = .claiming device)
      (hclaim : pipeline.inFlight.claim? device.id = none) :
      Progress pipeline none (pipeline.answer (.ok (.taken false)))
  | claimedSingle {device : Device} {inFlight : InFlight} (hduty : pipeline.duty = .claiming device)
      (hclaim : pipeline.inFlight.claim? device.id = some inFlight) :
      Progress pipeline none { pipeline with inFlight, duty := .sendingSingle device }
  | sentSingle {device : Device} {work : Queue Device} (hduty : pipeline.duty = .sendingSingle device)
      (hoffer : pipeline.work.offer? (device.loaded pipeline.store) = some work) :
      Progress pipeline (some (device.loaded pipeline.store))
        ({ pipeline with work }.answer (.ok (.taken true)))
  | shedSingle {device : Device} (hduty : pipeline.duty = .sendingSingle device)
      (hoffer : pipeline.work.offer? (device.loaded pipeline.store) = none) :
      Progress pipeline none ({ pipeline with
        inFlight := pipeline.inFlight.release device.id }.answer (.ok (.taken false)))

theorem progress_of_proceed? (hstep : pipeline.proceed? = some next) :
    ∃ queued, pipeline.Progress queued next := by
  cases hduty : pipeline.duty with
  | idle => simp [proceed?, hduty] at hstep
  | ended isClean => simp [proceed?, hduty] at hstep
  | checkingRoom budget =>
      simp only [proceed?, hduty, beq_iff_eq] at hstep
      split at hstep
      · rename_i hfull
        cases hstep
        exact ⟨_, .full hduty hfull⟩
      · rename_i hroom
        cases hstep
        exact ⟨_, .roomy hduty (Nat.pos_of_ne_zero hroom)⟩
  | sizing budget =>
      simp only [proceed?, hduty] at hstep
      cases hstep
      exact ⟨_, .sized hduty⟩
  | listing budget limit =>
      simp only [proceed?, hduty] at hstep
      split at hstep
      · rename_i hlisted
        cases hstep
        exact ⟨_, .unlisted hduty hlisted⟩
      · rename_i hlisted
        cases hstep
        exact ⟨_, .crashed hduty hlisted⟩
      · rename_i hlisted
        cases hstep
        exact ⟨_, .listed hduty hlisted⟩
  | visiting budget admitted due =>
      simp only [proceed?, hduty] at hstep
      cases due with
      | nil =>
          cases hstep
          exact ⟨_, .finished hduty (.inl rfl)⟩
      | cons device due =>
          simp only [Bool.or_eq_true, decide_eq_true_eq] at hstep
          split at hstep
          · rename_i hover
            cases hstep
            exact ⟨_, .finished hduty (.inr hover)⟩
          · rename_i hbudget
            rw [not_or, Nat.not_le] at hbudget
            split at hstep
            · rename_i hclaim
              cases hstep
              exact ⟨_, .passedOver hduty hbudget.1 hclaim⟩
            · rename_i hclaim
              cases hstep
              exact ⟨_, .claimed hduty hbudget.1 hclaim⟩
  | sending device budget admitted due =>
      simp only [proceed?, hduty] at hstep
      cases hoffer : pipeline.work.offer? (device.loaded pipeline.store) with
      | some work =>
          rw [sendDevice_of_some hoffer] at hstep
          cases hstep
          exact ⟨_, .sent hduty hoffer⟩
      | none =>
          rw [sendDevice_of_none hoffer] at hstep
          cases hstep
          exact ⟨_, .shed hduty hoffer⟩
  | lookingUp id =>
      simp only [proceed?, hduty] at hstep
      split at hstep
      · rename_i hfound
        cases hstep
        exact ⟨_, .unread hduty hfound⟩
      · rename_i hfound
        cases hstep
        exact ⟨_, .unknown hduty hfound⟩
      · rename_i hfound
        cases hstep
        exact ⟨_, .found hduty hfound⟩
  | claiming device =>
      simp only [proceed?, hduty] at hstep
      split at hstep
      · rename_i hclaim
        cases hstep
        exact ⟨_, .passedOverSingle hduty hclaim⟩
      · rename_i hclaim
        cases hstep
        exact ⟨_, .claimedSingle hduty hclaim⟩
  | sendingSingle device =>
      simp only [proceed?, hduty] at hstep
      cases hoffer : pipeline.work.offer? (device.loaded pipeline.store) with
      | some work =>
          rw [sendDevice_of_some hoffer] at hstep
          cases hstep
          exact ⟨_, .sentSingle hduty hoffer⟩
      | none =>
          rw [sendDevice_of_none hoffer] at hstep
          cases hstep
          exact ⟨_, .shedSingle hduty hoffer⟩

end Pipeline

end RouterPoll
