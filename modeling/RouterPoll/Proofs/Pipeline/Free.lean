import Mathlib.Data.List.Nodup
import RouterPoll.Proofs.Pipeline.Due
import RouterPoll.Proofs.Pipeline.Jobs
import RouterPoll.Proofs.Pipeline.Processor

/-!
# Devices that were free when they were listed

A device is marked only while it is in flight, and it comes to be in flight only when the scheduler admits it. So a device that was not in flight when a pass took its list is not marked before the pass is done with it, and it is due when the pass admits it. Only devices that were in flight then can be admitted without being due.
-/

namespace RouterPoll

theorem Duty.remaining_of_inHand? {duty : Duty} {device : Device} (hhand : duty.inHand? = some device) :
    duty.remaining = device :: duty.remaining.tail ∨ duty.remaining = [] := by
  cases duty with
  | sending sent budget admitted due =>
      cases hhand
      exact .inl rfl
  | sendingSingle sent => exact .inr rfl
  | _ => cases hhand

namespace Pipeline

variable {σ : Type} [Store σ]

def inFlightAtListing (steps : List (Step σ)) : List Uuid :=
  steps.foldl (fun ids step => if step.isListing then step.before.inFlight.ids else ids) []

omit [Store σ] in
theorem inFlightAtListing_append (steps : List (Step σ)) (step : Step σ) :
    inFlightAtListing (steps ++ [step])
      = if step.isListing then step.before.inFlight.ids else inFlightAtListing steps := by
  rw [inFlightAtListing, List.foldl_append]
  rfl

variable {pipeline next : Pipeline σ} {deed : Option Deed} {move : Move} {device : Device}

/-! ### Marks are of devices in flight -/

theorem Step.deed?_of_mark? {step : Step σ} {id : Uuid} {polledAt : Instant}
    (hmark : step.mark? id = some polledAt) : step.deed? = some (.write (.polled id polledAt)) := by
  unfold mark? at hmark
  split at hmark
  · rename_i deviceId marked hupdate
    split at hmark
    · rename_i hid
      cases hmark
      rw [hid.1] at hupdate
      obtain ⟨deed, hdeed, hwrite⟩ := Option.bind_eq_some_iff.1 hupdate
      cases deed with
      | write update =>
          cases hwrite
          exact hdeed
      | _ => cases hwrite
    · cases hmark
  · cases hmark

theorem processor_ids_of_mark? {ledger : Ledger} {journal : List Stage} {id : Uuid}
    {polledAt : Instant} (hfollows : pipeline.Follows ledger journal)
    (hstep : pipeline.step? move = some next)
    (hmark : (Step.mk pipeline move).mark? id = some polledAt) : pipeline.processor.ids = [id] := by
  have hdeed : pipeline.deed? move = some (.write (.polled id polledAt)) := Step.deed?_of_mark? hmark
  have heffect := effect_of_step? hstep
  rw [hdeed] at heffect
  cases heffect with
  | @written result update rest tally hphase =>
      have hhas := hfollows.current
      rw [hphase] at hhas
      obtain ⟨_, done, hwrites, _⟩ := hhas
      have hmem : .polled id polledAt ∈ result.writes := by
        rw [hwrites]
        exact List.mem_append_right _ List.mem_cons_self
      have hid : id = result.deviceId := PollResult.deviceId_of_mem_writes hmem
      rw [hphase, hid]
      rfl

omit [Store σ] in
theorem Balanced.not_mem_processor_ids (hbalanced : pipeline.Balanced)
    (hhand : pipeline.duty.inHand? = some device) : device.id ∉ pipeline.processor.ids := by
  intro hmem
  have hnodup : pipeline.places.Nodup := hbalanced.perm.nodup_iff.1 hbalanced.nodup
  rw [places, hhand, List.nodup_append] at hnodup
  refine hnodup.2.2 device.id (List.mem_singleton.2 rfl) device.id ?_ rfl
  simp only [List.mem_append]
  exact .inr (.inr (.inr (.inl hmem)))

omit [Store σ] in
theorem Balanced.mem_inFlight (hbalanced : pipeline.Balanced) {id : Uuid}
    (hmem : id ∈ pipeline.processor.ids) : id ∈ pipeline.inFlight.ids := by
  rw [hbalanced.perm.mem_iff, places]
  simp only [List.mem_append]
  exact .inr (.inr (.inr (.inr (.inl hmem))))

/-! ### Only the scheduler admits -/

theorem Effect.remaining_sublist (heffect : pipeline.Effect deed next) :
    next.duty.remaining.Sublist (pipeline.duty.remaining ++ pipeline.listing) := by
  cases heffect with
  | planned hbefore hafter hended hallowance hremaining => exact hremaining
  | claimed hbefore hafter hended hallowance hremaining hclaim =>
      exact hremaining.trans (List.sublist_append_left _ _)
  | sent hbefore hafter hallowance hremaining hoffer =>
      exact (hremaining.trans (List.tail_sublist _)).trans (List.sublist_append_left _ _)
  | refused hbefore hoffer => exact List.nil_sublist _
  | _ => exact List.sublist_append_left _ _

/-- A device that a pass still has before it is free, or becomes taken in the scheduler's hand only. -/
theorem Effect.inHand?_of_mem (heffect : pipeline.Effect deed next)
    (hnodup : (pipeline.duty.remaining.map (·.id)).Nodup)
    (hbefore : device ∈ pipeline.duty.remaining) (hafter : device ∈ next.duty.remaining)
    (hhand : device.id ∈ pipeline.inFlight.ids → pipeline.duty.inHand? = some device)
    (htaken : device.id ∈ next.inFlight.ids) : next.duty.inHand? = some device := by
  cases heffect with
  | planned hnone =>
      rw [hnone] at hhand
      cases hhand htaken
  | @claimed claimed duty inFlight hnone hclaimed hended hallowance hremaining hclaim =>
      have hids := (InFlight.claim?_eq_some hclaim).2
      have hmem : device.id ∈ inFlight.ids := htaken
      rw [hids] at hmem
      rcases List.mem_append.1 hmem with hold | hnew
      · rw [hnone] at hhand
        cases hhand hold
      · have hduty : claimed ∈ duty.remaining := by
          rcases Duty.remaining_of_inHand? hclaimed with hcons | hnil
          · rw [hcons]
            exact List.mem_cons_self
          · rw [show duty.remaining = [] from hnil] at hafter
            cases hafter
        have hsame : device = claimed := List.inj_on_of_nodup_map hnodup hbefore
          (hremaining.subset hduty) (List.mem_singleton.1 hnew)
        rw [hsame]
        exact hclaimed
  | @sent sent duty reply work hsent hnone hallowance hremaining hoffer =>
      have hsame : sent = device := Option.some.inj (hsent.symm.trans (hhand htaken))
      have htail := hremaining.subset hafter
      rcases Duty.remaining_of_inHand? hsent with hcons | hnil
      · rw [hcons, List.map_cons] at hnodup
        exact absurd (List.mem_map.2 ⟨device, htail, by rw [hsame]⟩) (List.nodup_cons.1 hnodup).1
      · rw [hnil] at htail
        cases htail
  | refused => cases hafter
  | released => exact hhand (List.mem_of_mem_erase htaken)
  | _ => exact hhand htaken

/-! ### Untouched devices -/

/-- What is known of a device that a pass has before it, if it was free when it was listed: it has not been marked since, and is in flight only in the scheduler's hand. -/
structure IsUntouched (steps : List (Step σ)) (pipeline : Pipeline σ) (device : Device) : Prop where
  unmarked : lastMark device.id steps = none
  inHand? : device.id ∈ pipeline.inFlight.ids → pipeline.duty.inHand? = some device

theorem IsUntouched.step {steps : List (Step σ)} (huntouched : pipeline.IsUntouched steps device)
    (hbalanced : pipeline.Balanced) {ledger : Ledger} {journal : List Stage}
    (hfollows : pipeline.Follows ledger journal) (hstep : pipeline.step? move = some next)
    (hnodup : (pipeline.duty.remaining.map (·.id)).Nodup)
    (hbefore : device ∈ pipeline.duty.remaining) (hafter : device ∈ next.duty.remaining) :
    next.IsUntouched (steps ++ [⟨pipeline, move⟩]) device where
  unmarked := by
    rw [lastMark_append, not_isListing_of_mem hbefore, huntouched.unmarked]
    cases hmark : (Step.mk pipeline move).mark? device.id with
    | none => rfl
    | some polledAt =>
        have hids := processor_ids_of_mark? hfollows hstep hmark
        have hmem : device.id ∈ pipeline.processor.ids := by
          rw [hids]
          exact List.mem_singleton.2 rfl
        have hhand := huntouched.inHand? (hbalanced.mem_inFlight hmem)
        exact absurd hmem (hbalanced.not_mem_processor_ids hhand)
  inHand? htaken :=
    (effect_of_step? hstep).inHand?_of_mem hnodup hbefore hafter huntouched.inHand? htaken

variable [LawfulStore σ]

theorem nodup_remaining (hsound : LawfulStore.IsSound pipeline.store)
    (hnodup : (pipeline.duty.remaining.map (·.id)).Nodup) (heffect : pipeline.Effect deed next) :
    (next.duty.remaining.map (·.id)).Nodup := by
  refine List.Nodup.sublist (heffect.remaining_sublist.map _) ?_
  unfold listing
  split
  · rename_i budget limit hduty
    rw [hduty]
    split
    · rename_i devices hlisted
      exact LawfulStore.nodup_of_listed hsound hlisted
    · exact List.nodup_nil
  · rw [List.append_nil]
    exact hnodup

/-- In a faithful run the listed devices are distinct, and those that were free are untouched. -/
theorem Run.isUntouched {settings : PollerSettings} {store : σ} {start : Instant}
    {steps : List (Step σ)} (run : Run (create settings store start) steps pipeline)
    (hsound : LawfulStore.IsSound store) (htimely : ∀ step ∈ steps, step.IsTimely)
    (hfaithful : ∀ step ∈ steps, step.IsFaithful) : (pipeline.duty.remaining.map (·.id)).Nodup
      ∧ ∀ device ∈ pipeline.duty.remaining, device.id ∉ inFlightAtListing steps →
        pipeline.IsUntouched steps device := by
  induction run with
  | refl =>
      refine ⟨List.nodup_nil, ?_⟩
      intro device hmem
      cases hmem
  | @snoc steps pipeline next move run hstep ih =>
      have hearlier : ∀ step ∈ steps, step.IsTimely := fun step hmem =>
        htimely step (List.mem_append_left _ hmem)
      have hkept : ∀ step ∈ steps, step.IsFaithful := fun step hmem =>
        hfaithful step (List.mem_append_left _ hmem)
      obtain ⟨hnodup, huntouched⟩ := ih hearlier hkept
      have hstore := run.isSound hsound hearlier
      have heffect := effect_of_step? hstep
      refine ⟨nodup_remaining hstore hnodup heffect, ?_⟩
      intro device hmem hfree
      rw [inFlightAtListing_append] at hfree
      rcases heffect.remaining_cases hmem with hold | ⟨hnew, _, _, hinFlight⟩
      · rw [not_isListing_of_mem hold, if_neg Bool.false_ne_true] at hfree
        exact (huntouched device hold hfree).step (run.balanced hkept) run.follows hstep hnodup hold hmem
      · have hlisting := (listed_of_mem_listing move hnew).1
        rw [hlisting, if_pos rfl] at hfree
        refine ⟨?_, ?_⟩
        · rw [lastMark_append, hlisting, if_pos rfl]
        · intro htaken
          rw [hinFlight] at htaken
          exact absurd htaken hfree

/-- A device that was not in flight when the pass took its list is due when the pass admits it. -/
theorem isDue_of_free {settings : PollerSettings} {store : σ} {start : Instant}
    {steps : List (Step σ)} (hsound : LawfulStore.IsSound store)
    (run : Run (create settings store start) steps pipeline)
    (htimely : ∀ step ∈ steps, step.IsTimely) (hfaithful : ∀ step ∈ steps, step.IsFaithful)
    (hduty : pipeline.duty.admitting? = some device) (hfree : device.id ∉ inFlightAtListing steps)
    (clock : Instant) : ∃ stored, Store.readDevice? pipeline.store clock device.id = .ok (some stored)
      ∧ stored.isDue pipeline.now = some true := by
  have hmem := Duty.mem_remaining hduty
  obtain ⟨stored, hstored, _, _, hdue, _⟩ := run.isListed hsound rfl htimely clock device hmem
  have huntouched := (run.isUntouched hsound htimely hfaithful).2 device hmem hfree
  exact ⟨stored, hstored, hdue huntouched.unmarked⟩

end Pipeline

end RouterPoll
