import RouterPoll.Proofs.Pipeline.Free
import RouterPoll.Proofs.Pipeline.Replay
import RouterPoll.Proofs.Pipeline.Visited
import RouterPoll.Proofs.Store.Orderly

/-!
# What happens to a device meanwhile

A stretch of a run begins somewhere in a run and ends later. If no poll of a device is under way where it begins, whatever is polled of the device meanwhile begins after that, and if none is under way where it ends either, all writes about the device are those of the results that were accepted meanwhile. So the store knows the device as it did before, or, if a poll succeeded, as last polled since. A device that was not even in flight is polled only if it was queued meanwhile.
-/

namespace RouterPoll

namespace PollResult

/-- The marks of some results for a device are the beginnings of those of its polls that succeeded. -/
theorem filterMap_mark?_flatMap (id : Uuid) (results : List PollResult) :
    (results.flatMap writes).filterMap (StoreUpdate.mark? id)
      = ((own id results).filter (·.success)).map (·.startedAt) := by
  induction results with
  | nil => rfl
  | cons result results ih =>
      rw [List.flatMap_cons, List.filterMap_append, filterMap_mark?_writes_eq, ih, own_cons]
      by_cases hsame : result.deviceId = id <;> cases hsuccess : result.success <;> simp [hsame, hsuccess]

end PollResult

namespace Pipeline

variable {σ : Type} [Store σ]

theorem accepted_append (steps more : List (Step σ)) : accepted (steps ++ more) = accepted steps ++ accepted more := by
  rw [accepted, journal, List.filterMap_append, List.filterMap_append]
  rfl

theorem writes_append (steps more : List (Step σ)) : writes (steps ++ more) = writes steps ++ writes more :=
  List.filterMap_append

/-- Whether some poll of a device succeeded whose result was accepted. -/
def HasSucceeded (steps : List (Step σ)) (id : Uuid) : Prop :=
  ∃ result ∈ accepted steps, result.deviceId = id ∧ result.success = true

omit [Store σ] in
theorem Balanced.mem_inFlight_of_phase {pipeline : Pipeline σ} (hbalanced : pipeline.Balanced) {phase : WorkerPhase}
    {id : Uuid} (hphase : phase ∈ pipeline.workers) (hid : id ∈ phase.ids) : id ∈ pipeline.inFlight.ids := by
  rw [hbalanced.perm.mem_iff, places]
  simp only [List.mem_append]
  exact .inr (.inr (.inl (List.mem_flatMap.2 ⟨phase, hphase, hid⟩)))

omit [Store σ] in
theorem Balanced.mem_inFlight_of_pending {pipeline : Pipeline σ} (hbalanced : pipeline.Balanced)
    {result : PollResult} (hpending : pipeline.IsPending result) : result.deviceId ∈ pipeline.inFlight.ids := by
  rcases hpending with hmem | hmem
  · exact hbalanced.mem_inFlight_of_phase hmem List.mem_cons_self
  · rw [hbalanced.perm.mem_iff, places]
    simp only [List.mem_append]
    exact .inr (.inr (.inr (.inl (List.mem_map_of_mem hmem))))

omit [Store σ] in
theorem Follows.deviceId_of_mem_unwritten {pipeline : Pipeline σ} {ledger : Ledger} {journal : List Stage}
    (hfollows : pipeline.Follows ledger journal) {update : StoreUpdate} (hmem : update ∈ pipeline.processor.unwritten) :
    update.deviceId ∈ pipeline.processor.ids := by
  have hhas := hfollows.current
  cases hprocessor : pipeline.processor with
  | writing result rest =>
      rw [hprocessor] at hhas hmem
      obtain ⟨_, done, hwrites, _⟩ := hhas
      have hwrite : update ∈ result.writes := by
        rw [hwrites]
        exact List.mem_append_right _ hmem
      rw [PollResult.deviceId_of_mem_writes hwrite]
      exact List.mem_singleton.2 rfl
  | _ =>
      rw [hprocessor] at hmem
      cases hmem

/-! ### Stretches of a run -/

/-- No poll of a device is under way: it is not being polled, and no result of it is on its way or still to be written. -/
structure IsUnpolled (pipeline : Pipeline σ) (id : Uuid) : Prop where
  polling : ∀ device startedAt, .polling device startedAt ∈ pipeline.workers → device.id ≠ id
  pending : ∀ result, pipeline.IsPending result → result.deviceId ≠ id
  unwritten : ∀ update ∈ pipeline.processor.unwritten, update.deviceId ≠ id

/-- Of a device no poll of which was under way at some point every poll began since then. -/
structure IsSince (base pipeline : Pipeline σ) (results : List PollResult) : Prop where
  polling : ∀ device startedAt, .polling device startedAt ∈ pipeline.workers → base.IsUnpolled device.id →
    base.now ≤ startedAt
  pending : ∀ result, pipeline.IsPending result → base.IsUnpolled result.deviceId → base.now ≤ result.startedAt
  accepted : ∀ result ∈ results, base.IsUnpolled result.deviceId → base.now ≤ result.startedAt

theorem Run.now_le {base pipeline : Pipeline σ} {window : List (Step σ)} (run : Run base window pipeline) :
    base.now ≤ pipeline.now :=
  run.invariant (fun pipeline => base.now ≤ pipeline.now) (fun _ => True) (le_refl _)
    (fun hle _ hstep => le_trans hle (effect_of_step? hstep).now_not_before) fun _ _ => trivial

section

variable {settings : PollerSettings} {store : σ} {start : Instant} {base pipeline : Pipeline σ}
  {steps window : List (Step σ)}

theorem Run.isUnpolled (run : Run (create settings store start) steps pipeline)
    (hfaithful : ∀ step ∈ steps, step.IsFaithful) {id : Uuid} (hfree : id ∉ pipeline.inFlight.ids) :
    pipeline.IsUnpolled id where
  polling _ _ hmem hsame :=
    hfree (hsame ▸ (run.balanced hfaithful).mem_inFlight_of_phase hmem List.mem_cons_self)
  pending _ hpending hsame := hfree (hsame ▸ (run.balanced hfaithful).mem_inFlight_of_pending hpending)
  unwritten _ hmem hsame :=
    hfree (hsame ▸ (run.balanced hfaithful).mem_inFlight (run.follows.deviceId_of_mem_unwritten hmem))

theorem Run.isSince (earlier : Run (create settings store start) steps base) (run : Run base window pipeline)
    (hfaithful : ∀ step ∈ steps ++ window, step.IsFaithful) (hstamped : ∀ step ∈ steps ++ window, step.IsStamped) :
    base.IsSince pipeline (accepted window) := by
  induction run with
  | refl =>
      exact ⟨fun device startedAt hmem hunpolled => absurd rfl (hunpolled.polling device startedAt hmem),
        fun result hpending hunpolled => absurd rfl (hunpolled.pending result hpending), fun _ hmem => (by cases hmem)⟩
  | @snoc window before next move run hstep ih =>
      rw [← List.append_assoc] at hfaithful hstamped
      have hlast : Step.mk before move ∈ (steps ++ window) ++ [⟨before, move⟩] :=
        List.mem_append_right _ (List.mem_singleton.2 rfl)
      have hkept : ∀ step ∈ steps ++ window, step.IsFaithful := fun step hmem =>
        hfaithful step (List.mem_append_left _ hmem)
      have htimes : ∀ step ∈ steps ++ window, step.IsStamped := fun step hmem =>
        hstamped step (List.mem_append_left _ hmem)
      obtain ⟨hpolling, hpending, haccepted⟩ := ih hkept htimes
      have hchronological := (earlier.append run).isChronological hkept htimes
      have heffect := effect_of_step? hstep
      refine ⟨fun device startedAt hmem hunpolled => ?_, fun result hmem hunpolled => ?_,
        fun result hmem hunpolled => ?_⟩
      · rcases heffect.polling_cases hmem with hold | rfl
        · exact hpolling device startedAt hold hunpolled
        · exact run.now_le
      · rcases heffect.pending_cases hmem with hold | ⟨worker, device, startedAt, hdeed, hphase⟩
        · exact hpending result hold hunpolled
        · rw [(hfaithful _ hlast).deviceId_eq hdeed hphase] at hunpolled
          have hpolled := List.mem_of_getElem? hphase
          obtain ⟨_, hle, hordinary, _⟩ := hchronological.polling device startedAt hpolled
          exact le_trans (hpolling device startedAt hpolled hunpolled)
            ((hstamped _ hlast).of_conclude hdeed hphase hordinary hle).began
      · rw [accepted_snoc, List.mem_append] at hmem
        rcases hmem with hold | hnew
        · exact haccepted result hold hunpolled
        · rw [Option.mem_toList] at hnew
          rcases heffect.accepted_cases before.cancelled with hnone | ⟨other, hsome, _, _, hother⟩
          · rw [Step.stage?, Step.deed?, hnone] at hnew
            cases hnew
          · rw [Step.stage?, Step.deed?, hsome] at hnew
            cases hnew
            exact hpending result hother hunpolled

/-- A result that was accepted meanwhile is about a device that was in flight before, or that was queued meanwhile. -/
theorem Run.deviceId_of_mem_accepted (earlier : Run (create settings store start) steps base)
    (run : Run base window pipeline) (hfaithful : ∀ step ∈ steps ++ window, step.IsFaithful) :
    ∀ result ∈ accepted window,
      result.deviceId ∈ base.inFlight.ids ∨ result.deviceId ∈ (queuedIn window).map (·.id) := by
  induction run with
  | refl =>
      intro result hmem
      cases hmem
  | @snoc window before next move run hstep ih =>
      have hbalanced := (earlier.append (run.snoc hstep)).balanced hfaithful
      have hstart := earlier.balanced fun step hmem => hfaithful step (List.mem_append_left _ hmem)
      rw [← List.append_assoc] at hfaithful
      intro result hmem
      rw [accepted_snoc, List.mem_append] at hmem
      rcases hmem with hold | hnew
      · rw [queuedIn_snoc, List.map_append, List.mem_append]
        rcases ih (fun step hmem => hfaithful step (List.mem_append_left _ hmem)) result hold with hbase | hsince
        · exact .inl hbase
        · exact .inr (.inl hsince)
      · rw [Option.mem_toList] at hnew
        rcases (effect_of_step? hstep).accepted_cases before.cancelled with hnone | ⟨other, hsome, _, hprocessor, _⟩
        · rw [Step.stage?, Step.deed?, hnone] at hnew
          cases hnew
        · rw [Step.stage?, Step.deed?, hsome] at hnew
          cases hnew
          have hprocessed : result.deviceId ∈ next.processor.ids := by
            rw [hprocessor]
            exact List.mem_singleton.2 rfl
          rcases ((run.snoc hstep).inFlight_cases hstart.nodup).2 _ (hbalanced.mem_inFlight hprocessed) with
            hbase | hsince | hhand
          · exact .inl hbase
          · exact .inr hsince
          · obtain ⟨device, hdevice, hsame⟩ := List.mem_map.1 hhand
            rw [Option.mem_toList] at hdevice
            exact absurd (hsame ▸ hprocessed) (hbalanced.not_mem_processor_ids hdevice)

/-- Of a device no poll of which is under way at either end, the marks made meanwhile are those of the results accepted meanwhile. -/
theorem Run.marks_eq (earlier : Run (create settings store start) steps base) (run : Run base window pipeline)
    {id : Uuid} (hbefore : base.IsUnpolled id) (hafter : pipeline.IsUnpolled id) :
    ((writes window).map (·.2)).filterMap (StoreUpdate.mark? id)
      = ((PollResult.own id (accepted window)).filter (·.success)).map (·.startedAt) := by
  have hnone {pipeline : Pipeline σ} (hunpolled : pipeline.IsUnpolled id) :
      pipeline.processor.unwritten.filterMap (StoreUpdate.mark? id) = [] := by
    refine List.filterMap_eq_nil_iff.2 fun update hmem => ?_
    have hother := hunpolled.unwritten update hmem
    cases update with
    | polled deviceId polledAt => exact if_neg hother
    | _ => rfl
  have hsplit : (writes window).map (·.2) ++ pipeline.processor.unwritten
      = base.processor.unwritten ++ (accepted window).flatMap PollResult.writes := by
    have hbase := earlier.writes_append_unwritten
    have hall := (earlier.append run).writes_append_unwritten
    rw [writes_append, accepted_append, List.map_append, List.flatMap_append, ← hbase, List.append_assoc,
      List.append_assoc] at hall
    exact List.append_cancel_left hall
  have hmarks := congrArg (List.filterMap (StoreUpdate.mark? id)) hsplit
  rwa [List.filterMap_append, List.filterMap_append, PollResult.filterMap_mark?_flatMap, hnone hafter,
    hnone hbefore, List.append_nil, List.nil_append] at hmarks

theorem Run.isTimed_writes (run : Run (create settings store start) steps pipeline)
    (hchronological : pipeline.IsChronological start (accepted steps)) : ∀ write ∈ writes steps, write.2.IsTimed := by
  intro write hmem
  have hwritten : write.2 ∈ (accepted steps).flatMap PollResult.writes := by
    rw [← run.writes_append_unwritten]
    exact List.mem_append_left _ (List.mem_map_of_mem hmem)
  obtain ⟨result, hresult, hupdate⟩ := List.mem_flatMap.1 hwritten
  cases hkind : write.2 with
  | polled deviceId polledAt =>
      rw [hkind] at hupdate
      have hmark : polledAt ∈ result.writes.filterMap (StoreUpdate.mark? deviceId) :=
        List.mem_filterMap.2 ⟨_, hupdate, if_pos rfl⟩
      rw [PollResult.filterMap_mark?_writes_eq] at hmark
      split at hmark
      · rw [List.mem_singleton.1 hmark]
        exact (hchronological.stamped result hresult).ordinary.1
      · cases hmark
  | _ => exact trivial

variable [LawfulStore σ] [ListingStore σ] [OrderlyStore σ]

theorem Run.isKept (run : Run (create settings store start) steps pipeline)
    (hchronological : pipeline.IsChronological start (accepted steps)) (hkept : ListingStore.IsKept store) :
    ListingStore.IsKept pipeline.store := by
  rw [run.store_eq_replay]
  exact isKept_replay (run.isTimed_writes hchronological) hkept

/-- A known device no poll of which is under way at either end was last polled when it was before, unless a poll of it succeeded meanwhile; then that was since. -/
theorem Run.device?_since (earlier : Run (create settings store start) steps base) (run : Run base window pipeline)
    (hkept : ListingStore.IsKept store) (hfaithful : ∀ step ∈ steps ++ window, step.IsFaithful)
    (hstamped : ∀ step ∈ steps ++ window, step.IsStamped) (hnow : base.now.IsOrdinary) {clock : Instant} {id : Uuid}
    {stored : Device} (hstored : Store.readDevice? base.store clock id = .ok (some stored))
    (hbefore : base.IsUnpolled id)
    (hafter : pipeline.IsUnpolled id) :
    (¬ HasSucceeded window id → Store.readDevice? pipeline.store clock id = .ok (some stored))
      ∧ (HasSucceeded window id → ∃ last, ListingStore.kept σ base.now ≤ last
        ∧ Store.readDevice? pipeline.store clock id = .ok (some { stored with lastPolledAt := some last })) := by
  have hchronological := (earlier.append run).isChronological hfaithful hstamped
  have hsince := earlier.isSince run hfaithful hstamped
  have hmarks := earlier.marks_eq run hbefore hafter
  have hbase : ListingStore.IsKept base.store :=
    earlier.isKept (earlier.isChronological (fun step hmem => hfaithful step (List.mem_append_left _ hmem))
      fun step hmem => hstamped step (List.mem_append_left _ hmem)) hkept
  have htimed : ∀ write ∈ writes window, write.2.IsTimed := fun write hmem =>
    (earlier.append run).isTimed_writes hchronological write (by
      rw [writes_append]
      exact List.mem_append_right _ hmem)
  -- the marks that the store has seen are the beginnings of the polls that succeeded
  have hmark_iff (polledAt : Instant) : (∃ write ∈ writes window, write.2.mark? id = some polledAt)
      ↔ ∃ result ∈ accepted window, (result.deviceId = id ∧ result.success = true) ∧ result.startedAt = polledAt := by
    have hmem : polledAt ∈ ((writes window).map (·.2)).filterMap (StoreUpdate.mark? id)
        ↔ ∃ write ∈ writes window, write.2.mark? id = some polledAt := by
      simp only [List.mem_filterMap, List.mem_map, exists_exists_and_eq_and]
    rw [← hmem, hmarks]
    simp only [PollResult.own, List.mem_map, List.mem_filter, beq_iff_eq, and_assoc]
  rw [run.store_eq_replay]
  rcases device?_replay htimed hbase hstored with ⟨hunmarked, hsame⟩ | ⟨polledAt, hmarked, hpolled⟩
  · refine ⟨fun _ => hsame, ?_⟩
    rintro ⟨result, hresult, hsuccess⟩
    obtain ⟨write, hwrite, hmark⟩ := (hmark_iff result.startedAt).2 ⟨result, hresult, hsuccess, rfl⟩
    rw [hunmarked write hwrite] at hmark
    cases hmark
  · obtain ⟨result, hresult, hsuccess, rfl⟩ := (hmark_iff polledAt).1 hmarked
    refine ⟨fun hfailed => absurd ⟨result, hresult, hsuccess⟩ hfailed, fun _ => ⟨_, ?_, hpolled⟩⟩
    have hall : result ∈ accepted (steps ++ window) := by
      rw [accepted_append]
      exact List.mem_append_right _ hresult
    refine OrderlyStore.kept_mono hnow (hchronological.stamped result hall).ordinary.1 ?_
    exact hsince.accepted result hresult (by rw [hsuccess.1]; exact hbefore)

end

end Pipeline

end RouterPoll
