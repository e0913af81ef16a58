import RouterPoll.Proofs.Pipeline.Commands
import RouterPoll.Proofs.Pipeline.Places

/-!
# What a pass has gone through

A pass goes through the devices that it was listed one by one. It passes over those that are in flight, and puts the others into the work queue, so each device of the front that it has gone through was in flight when it was listed or has been queued since, and only devices of that front have been queued. Where the pass ends, for whatever reason, everything behind the front is left for another pass.
-/

namespace RouterPoll

def Move.isSingle : Move → Bool
  | .beginSingle _ => true
  | _ => false

def Duty.isSingle : Duty → Bool
  | lookingUp _ | claiming _ | sendingSingle _ => true
  | _ => false

namespace Pipeline

variable {σ : Type} [Store σ] {start asking pipeline next last : Pipeline σ} {steps : List (Step σ)} {move : Move}

/-! ### What comes to be in flight -/

/-- A device in flight was so at the start, has been queued since, or is in the scheduler's hand. -/
theorem Run.inFlight_cases (run : Run start steps pipeline) (hnodup : start.inFlight.ids.Nodup) :
    pipeline.inFlight.ids.Nodup ∧ ∀ id ∈ pipeline.inFlight.ids, id ∈ start.inFlight.ids
      ∨ id ∈ (queuedIn steps).map (·.id) ∨ id ∈ pipeline.duty.inHand?.toList.map (·.id) := by
  induction run with
  | refl => exact ⟨hnodup, fun id hmem => .inl hmem⟩
  | @snoc steps pipeline next move run hstep ih =>
      obtain ⟨hbefore, hcases⟩ := ih
      have heffect := effect_of_step? hstep
      refine ⟨heffect.nodup_inFlight hbefore, fun id hmem => ?_⟩
      have hqueued : (queuedIn (steps ++ [⟨pipeline, move⟩])).map (·.id)
          = (queuedIn steps).map (·.id) ++ ((pipeline.deed? move).bind Deed.queued?).toList.map (·.id) := by
        rw [queuedIn_snoc, List.map_append]
        rfl
      rw [hqueued, List.mem_append]
      generalize pipeline.deed? move = deed at heffect
      have hlater {inHand : Prop} (hsofar : id ∈ start.inFlight.ids ∨ id ∈ (queuedIn steps).map (·.id) ∨ inHand) :
          id ∈ start.inFlight.ids
            ∨ (id ∈ (queuedIn steps).map (·.id) ∨ id ∈ (deed.bind Deed.queued?).toList.map (·.id)) ∨ inHand :=
        hsofar.imp_right (Or.imp_left .inl)
      have hunheld {inHand : Prop} (hin : id ∈ pipeline.inFlight.ids) (hhand : pipeline.duty.inHand? = none) :
          id ∈ start.inFlight.ids ∨ id ∈ (queuedIn steps).map (·.id) ∨ inHand := by
        rcases hcases id hin with hstart | hsince | hnone
        · exact .inl hstart
        · exact .inr (.inl hsince)
        · rw [hhand] at hnone
          cases hnone
      cases heffect with
      | planned hnone => exact hlater (hunheld hmem hnone)
      | @claimed device duty inFlight hnone hhand hended hallowance hremaining hclaim =>
          have hin : id ∈ inFlight.ids := hmem
          rw [(InFlight.claim?_eq_some hclaim).2] at hin
          rcases List.mem_append.1 hin with hin | hnew
          · exact hlater (hunheld hin hnone)
          · refine .inr (.inr ?_)
            show id ∈ duty.inHand?.toList.map (·.id)
            rw [hhand]
            exact hnew
      | sent hhand hnone =>
          rcases hcases id hmem with hstart | hsince | hsent
          · exact .inl hstart
          · exact .inr (.inl (.inl hsince))
          · rw [hhand, Option.toList_some, List.map_singleton] at hsent
            refine .inr (.inl (.inr ?_))
            simpa [Deed.queued?] using hsent
      | @refused device reply hhand hoffer =>
          have hin : id ∈ pipeline.inFlight.ids.erase device.id := hmem
          rw [hbefore.mem_erase_iff] at hin
          rcases hcases id hin.2 with hstart | hsince | hsent
          · exact .inl hstart
          · exact .inr (.inl (.inl hsince))
          · rw [hhand, Option.toList_some, List.map_singleton] at hsent
            exact absurd (List.mem_singleton.1 hsent) hin.1
      | released => exact hlater (hcases id (List.mem_of_mem_erase hmem))
      | _ => exact hlater (hcases id hmem)

/-! ### How far a pass has come -/

/-- The front of its list that a pass has gone through. What is left of the list is still before it, or the pass has ended. -/
structure HasVisited (asking : Pipeline σ) (devices front : List Device) (steps : List (Step σ))
    (pipeline : Pipeline σ) : Prop where
  begins : front <+: devices
  remaining : pipeline.duty.remaining = [] ∨ front ++ pipeline.duty.remaining = devices
  queued : ∀ device ∈ queuedIn steps, device.id ∈ front.map (·.id)
  visited : ∀ device ∈ front, device.id ∈ asking.inFlight.ids ∨ device.id ∈ (queuedIn steps).map (·.id)
  pass : pipeline.duty.isSingle = false

namespace HasVisited

variable {devices front : List Device}

theorem keep (hvisited : HasVisited asking devices front steps pipeline)
    (hqueued : (Step.mk pipeline move).queued? = none)
    (hremaining : next.duty.remaining = [] ∨ next.duty.remaining = pipeline.duty.remaining)
    (hpass : next.duty.isSingle = false) : HasVisited asking devices front (steps ++ [⟨pipeline, move⟩]) next where
  begins := hvisited.begins
  remaining := by
    rcases hremaining with hnone | hsame
    · exact .inl hnone
    · rw [hsame]
      exact hvisited.remaining
  queued := by
    rw [queuedIn_snoc, hqueued, Option.toList_none, List.append_nil]
    exact hvisited.queued
  visited := by
    rw [queuedIn_snoc, hqueued, Option.toList_none, List.append_nil]
    exact hvisited.visited
  pass := hpass

/-- The device at hand joins the front when it is queued, or found to be in flight. -/
theorem advance {device : Device} {due : List Device} (hvisited : HasVisited asking devices front steps pipeline)
    (hbefore : pipeline.duty.remaining = device :: due) (hafter : next.duty.remaining = due)
    (hpass : next.duty.isSingle = false)
    (hqueued : ∀ queued ∈ (Step.mk pipeline move).queued?, queued.id = device.id)
    (hdevice : device.id ∈ asking.inFlight.ids
      ∨ device.id ∈ (queuedIn (steps ++ [⟨pipeline, move⟩])).map (·.id)) :
    HasVisited asking devices (front ++ [device]) (steps ++ [⟨pipeline, move⟩]) next := by
  have hlist : front ++ device :: due = devices := by
    rcases hvisited.remaining with hnone | hlist
    · rw [hbefore] at hnone
      cases hnone
    · rwa [hbefore] at hlist
  refine ⟨⟨due, ?_⟩, .inr ?_, fun queued hmem => ?_, fun other hmem => ?_, hpass⟩
  · rw [List.append_assoc]
    exact hlist
  · rw [hafter, List.append_assoc]
    exact hlist
  · rw [queuedIn_snoc] at hmem
    rw [List.map_append, List.mem_append]
    rcases List.mem_append.1 hmem with hold | hnew
    · exact .inl (hvisited.queued queued hold)
    · rw [hqueued queued (Option.mem_toList.1 hnew)]
      exact .inr (List.mem_singleton.2 rfl)
  · rcases List.mem_append.1 hmem with hold | hnew
    · rw [queuedIn_snoc, List.map_append, List.mem_append]
      rcases hvisited.visited other hold with hasked | hsince
      · exact .inl hasked
      · exact .inr (.inl hsince)
    · rw [List.mem_singleton.1 hnew]
      exact hdevice

theorem proceed {queued : Option Device} (hvisited : HasVisited asking devices front steps pipeline)
    (hasking : (Step.mk pipeline .proceed).isAsking = false)
    (hin : ∀ id ∈ pipeline.inFlight.ids, id ∈ asking.inFlight.ids
      ∨ id ∈ (queuedIn steps).map (·.id) ∨ id ∈ pipeline.duty.inHand?.toList.map (·.id))
    (hprogress : pipeline.Progress queued next) :
    ∃ front, HasVisited asking devices front (steps ++ [⟨pipeline, .proceed⟩]) next := by
  have hqueued := hprogress.queued?_eq
  have hpass := hvisited.pass
  have hasks {budget limit : Nat} (hduty : pipeline.duty = .listing budget limit) : False := by
    simp [Step.isAsking, Step.isListing, Move.isProceed, hduty] at hasking
  cases hprogress with
  | unlisted hduty | crashed hduty | listed hduty => exact (hasks hduty).elim
  | unread hduty | unknown hduty | found hduty | passedOverSingle hduty | claimedSingle hduty
  | sentSingle hduty | shedSingle hduty =>
      rw [hduty] at hpass
      cases hpass
  | full | roomy | sized | finished | shed => exact ⟨front, hvisited.keep hqueued (.inl rfl) rfl⟩
  | claimed hduty => exact ⟨front, hvisited.keep hqueued (.inr (by rw [hduty]; rfl)) rfl⟩
  | @passedOver budget admitted device due hduty hbudget hclaim =>
      refine ⟨front ++ [device], hvisited.advance (by rw [hduty]; rfl) rfl rfl ?_ ?_⟩
      · intro queued hmem
        rw [hqueued] at hmem
        cases hmem
      · have hclaimed : device.id ∈ pipeline.inFlight.ids := by
          unfold InFlight.claim? at hclaim
          split at hclaim
          · rename_i hcontains
            exact List.contains_iff_mem.1 hcontains
          · cases hclaim
        rw [queuedIn_snoc, List.map_append, List.mem_append]
        rcases hin device.id hclaimed with hasked | hsince | hhand
        · exact .inl hasked
        · exact .inr (.inl hsince)
        · rw [hduty] at hhand
          cases hhand
  | @sent device budget admitted due work hduty hoffer =>
      refine ⟨front ++ [device], hvisited.advance (by rw [hduty]; rfl) rfl rfl ?_ (.inr ?_)⟩
      · intro queued hmem
        rw [hqueued] at hmem
        cases hmem
        exact device.loaded_id pipeline.store
      · rw [queuedIn_snoc, hqueued, List.map_append, List.mem_append]
        exact .inr (by simp)

theorem step (hvisited : HasVisited asking devices front steps pipeline)
    (hasking : (Step.mk pipeline move).isAsking = false) (hsingle : move.isSingle = false)
    (hin : ∀ id ∈ pipeline.inFlight.ids, id ∈ asking.inFlight.ids
      ∨ id ∈ (queuedIn steps).map (·.id) ∨ id ∈ pipeline.duty.inHand?.toList.map (·.id))
    (hstep : pipeline.step? move = some next) :
    ∃ front, HasVisited asking devices front (steps ++ [⟨pipeline, move⟩]) next := by
  cases hproceed : move.isProceed with
  | true =>
      cases move with
      | proceed =>
          obtain ⟨queued, hprogress⟩ := progress_of_proceed? hstep
          exact hvisited.proceed hasking hin hprogress
      | _ => cases hproceed
  | false =>
      have hqueued : (Step.mk pipeline move).queued? = none := queued?_of_other hproceed
      cases hscheduling : move.isScheduling with
      | false =>
          have hduty := (leavesScheduler_of_step? hscheduling hstep).duty
          exact ⟨front, hvisited.keep hqueued (.inr (by rw [hduty])) (by rw [hduty]; exact hvisited.pass)⟩
      | true =>
          cases move with
          | beginPass =>
              simp only [step?, beginPass?] at hstep
              split at hstep
              · split at hstep
                · cases hstep
                · split at hstep
                  · cases hstep
                    exact ⟨front, hvisited.keep hqueued (.inl rfl) rfl⟩
                  · cases hstep
                    exact ⟨front, hvisited.keep hqueued (.inl rfl) rfl⟩
              · cases hstep
          | stop =>
              simp only [step?, stop?] at hstep
              split at hstep
              · split at hstep
                · cases hstep
                  exact ⟨front, hvisited.keep hqueued (.inl rfl) rfl⟩
                · cases hstep
              · cases hstep
          | beginSingle id => cases hsingle
          | proceed => cases hproceed
          | _ => cases hscheduling

end HasVisited

/-- A run from where a pass asks the store for its list on, in which no other pass asks and no single device is asked for. -/
structure IsPassRun (asking : Pipeline σ) (steps : List (Step σ)) (last : Pipeline σ) : Prop where
  asks : (Step.mk asking .proceed).isAsking = true
  run : ∃ listed, asking.step? .proceed = some listed ∧ Run listed steps last
  alone : ∀ step ∈ steps, step.isAsking = false ∧ step.move.isSingle = false

omit [Store σ] in
theorem duty_of_isAsking (hasking : (Step.mk asking .proceed).isAsking = true) :
    ∃ budget limit, asking.duty = .listing budget limit := by
  simp only [Step.isAsking, Step.isListing, Bool.and_eq_true] at hasking
  cases hduty : asking.duty with
  | listing budget limit => exact ⟨budget, limit, rfl⟩
  | _ => simp [hduty] at hasking

theorem listed_eq (hasking : (Step.mk asking .proceed).isAsking = true) (hstep : asking.step? .proceed = some next) :
    (∃ duty reply, next = { asking with duty, reply }) ∧ HasVisited asking asking.listing [] [] next := by
  obtain ⟨budget, limit, hduty⟩ := duty_of_isAsking hasking
  have hvisited {duty : Duty} {reply : Option Reply}
      (hremaining : duty.remaining = [] ∨ duty.remaining = asking.listing) (hpass : duty.isSingle = false) :
      HasVisited asking asking.listing [] [] { asking with duty, reply } :=
    ⟨List.nil_prefix, hremaining, fun _ hmem => (by cases hmem), fun _ hmem => (by cases hmem), hpass⟩
  obtain ⟨queued, hprogress⟩ := progress_of_proceed? hstep
  cases hprogress with
  | unlisted hat hlisted => exact ⟨⟨_, _, rfl⟩, hvisited (.inl rfl) rfl⟩
  | crashed hat hlisted => exact ⟨⟨_, _, rfl⟩, hvisited (.inl rfl) rfl⟩
  | listed hat hlisted =>
      refine ⟨⟨_, _, rfl⟩, hvisited (.inr ?_) rfl⟩
      simp only [listing, hat, hlisted, Duty.remaining]
  | _ => simp [*] at hduty

theorem IsPassRun.hasVisited (hpass : IsPassRun asking steps last) (hnodup : asking.inFlight.ids.Nodup) :
    ∃ front, HasVisited asking asking.listing front steps last := by
  obtain ⟨hasking, ⟨listed, hstep, run⟩, halone⟩ := hpass
  obtain ⟨⟨duty, reply, rfl⟩, hstart⟩ := listed_eq hasking hstep
  clear hstep
  induction run with
  | refl => exact ⟨[], hstart⟩
  | @snoc steps pipeline next move run hstep ih =>
      obtain ⟨front, hvisited⟩ := ih fun step hmem => halone step (List.mem_append_left _ hmem)
      obtain ⟨hquiet, hsingle⟩ := halone _ (List.mem_append_right _ (List.mem_singleton.2 rfl))
      exact hvisited.step hquiet hsingle (run.inFlight_cases hnodup).2 hstep

end Pipeline

end RouterPoll
