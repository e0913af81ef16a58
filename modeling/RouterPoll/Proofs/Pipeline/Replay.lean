import RouterPoll.Proofs.Pipeline.Chronology
import RouterPoll.Proofs.Store.Replay

/-!
# The order of writes

What the processor has written in a run are the writes of the results it accepted, one result after the other; only of the last one some may still be to come. So the writes about a device follow each other as its results do: the time of its last poll is never moved back, and a database lists its records and points in the order in which they were written.
-/

namespace RouterPoll

/-! ### The writes of results -/

namespace PollResult

variable {id : Uuid}

theorem own_cons (result : PollResult) (results : List PollResult) :
    own id (result :: results)
      = if result.deviceId = id then result :: own id results else own id results := by
  by_cases hsame : result.deviceId = id <;> simp [own, hsame]

theorem filterMap_writes {β : Type} {pick : StoreUpdate → Option β}
    (hsessions : ∀ tenantId deviceId batch, pick (.sessions tenantId deviceId batch) = none)
    (result : PollResult) : result.writes.filterMap pick
      = (pick (.history (.ofResult result))).toList ++
        if result.success then
          (pick (.polled result.deviceId result.startedAt)).toList
            ++ (pick (.metrics result.point)).toList
        else if result.cancelled then [] else (pick (.failure result.deviceId)).toList := by
  have hcons (update : StoreUpdate) (rest : List StoreUpdate) :
      (update :: rest).filterMap pick = (pick update).toList ++ rest.filterMap pick := by
    cases hpicked : pick update <;> simp [hpicked]
  have hbatches : (result.sessionBatches.map
      (StoreUpdate.sessions result.tenantId result.deviceId)).filterMap pick = [] := by
    rw [List.filterMap_map, List.filterMap_eq_nil_iff]
    exact fun batch _ => hsessions _ _ batch
  rw [writes, hcons]
  congr 1
  cases result.success with
  | true =>
      rw [if_pos rfl, if_pos rfl, successWrites, List.filterMap_append, hbatches, List.append_nil, hcons,
        hcons, List.filterMap_nil, List.append_nil, point]
  | false =>
      rw [if_neg Bool.false_ne_true, if_neg Bool.false_ne_true, failureWrites]
      cases result.cancelled with
      | true => rfl
      | false => simp only [Bool.false_eq_true, if_false, hcons, List.filterMap_nil, List.append_nil]

theorem filterMap_mark?_writes_eq (id : Uuid) (result : PollResult) : result.writes.filterMap (StoreUpdate.mark? id)
    = if result.deviceId = id ∧ result.success = true then [result.startedAt] else [] := by
  rw [filterMap_writes fun _ _ _ => rfl]
  cases result.success <;> by_cases hsame : result.deviceId = id <;>
    simp [StoreUpdate.mark?, hsame]

theorem filterMap_mark?_writes (id : Uuid) (result : PollResult) :
    (result.writes.filterMap (StoreUpdate.mark? id)).Sublist
      (if result.deviceId = id then [result.startedAt] else []) := by
  rw [filterMap_mark?_writes_eq]
  by_cases hsame : result.deviceId = id <;> cases result.success <;> simp [hsame]

theorem filterMap_record?_writes (id : Uuid) (result : PollResult) :
    (result.writes.filterMap (StoreUpdate.record? id)).Sublist
      (if result.deviceId = id then [HistoryRecord.ofResult result] else []) := by
  rw [filterMap_writes fun _ _ _ => rfl]
  cases result.success <;> by_cases hsame : result.deviceId = id <;>
    simp [StoreUpdate.record?, HistoryRecord.ofResult, hsame]

theorem filterMap_point?_writes (id : Uuid) (result : PollResult) :
    (result.writes.filterMap (StoreUpdate.point? id)).Sublist
      (if result.deviceId = id then [result.point] else []) := by
  rw [filterMap_writes fun _ _ _ => rfl]
  cases result.success <;> by_cases hsame : result.deviceId = id <;>
    simp [StoreUpdate.point?, point, MetricsPoint.ofResult, hsame]

/-- What is picked at most once of the writes of each result of a device is in the order of these results. -/
theorem filterMap_flatMap_writes {β : Type} {pick : StoreUpdate → Option β} {of : PollResult → β}
    (hpick : ∀ result : PollResult, (result.writes.filterMap pick).Sublist
      (if result.deviceId = id then [of result] else [])) (results : List PollResult) :
    ((results.flatMap writes).filterMap pick).Sublist ((own id results).map of) := by
  induction results with
  | nil => exact List.Sublist.slnil
  | cons result results ih =>
      have hfirst := hpick result
      rw [List.flatMap_cons, List.filterMap_append, own_cons]
      by_cases hsame : result.deviceId = id
      · rw [if_pos hsame] at hfirst ⊢
        exact hfirst.append ih
      · rw [if_neg hsame] at hfirst ⊢
        exact hfirst.append ih

end PollResult

def ProcessorPhase.unwritten : ProcessorPhase → List StoreUpdate
  | writing _ rest => rest
  | _ => []

namespace Pipeline

variable {σ : Type} [Store σ]

def Step.write? (step : Step σ) : Option (Instant × StoreUpdate) :=
  step.update?.map (step.before.now, ·)

def writes (steps : List (Step σ)) : List (Instant × StoreUpdate) := steps.filterMap Step.write?

theorem writes_snoc (steps : List (Step σ)) (step : Step σ) :
    writes (steps ++ [step]) = writes steps ++ step.write?.toList := by
  rw [writes, List.filterMap_append, ← writes]
  cases hwrite : step.write? <;> simp [hwrite]

/-- The store is what the writes of the run have made of it. -/
theorem Run.store_eq_replay {start pipeline : Pipeline σ} {steps : List (Step σ)}
    (run : Run start steps pipeline) : pipeline.store = replay start.store (writes steps) := by
  induction run with
  | refl => rfl
  | @snoc steps before next move run hstep ih =>
      rw [writes_snoc, replay_append, ← ih, (effect_of_step? hstep).store_eq, Step.write?, Step.update?,
        Step.deed?]
      cases (before.deed? move).bind Deed.update? <;> rfl

theorem Effect.unwritten_eq {before next : Pipeline σ} {deed : Option Deed}
    (heffect : before.Effect deed next) (calledOff : Bool) :
    (deed.bind Deed.update?).toList ++ next.processor.unwritten
      = before.processor.unwritten
        ++ ((deed.map (Deed.stage calledOff)).bind Stage.accepted?).toList.flatMap PollResult.writes := by
  cases heffect with
  | accepted hphase => simp [hphase, ProcessorPhase.unwritten, Deed.update?, Deed.stage, Stage.accepted?]
  | written hphase => simp [hphase, ProcessorPhase.unwritten, Deed.update?, Deed.stage, Stage.accepted?]
  | released hphase => simp [hphase, ProcessorPhase.unwritten, Deed.update?, Deed.stage, Stage.accepted?]
  | finished hphase => simp [hphase, ProcessorPhase.unwritten]
  | _ => exact (List.append_nil _).symm

/-- Everything that the accepted results ask for was written, but for what the processor is still at. -/
theorem Run.writes_append_unwritten {settings : PollerSettings} {store : σ} {now : Instant}
    {steps : List (Step σ)} {pipeline : Pipeline σ}
    (run : Run (create settings store now) steps pipeline) :
    (writes steps).map (·.2) ++ pipeline.processor.unwritten
      = (accepted steps).flatMap PollResult.writes := by
  induction run with
  | refl => rfl
  | @snoc steps before next move run hstep ih =>
      have hnew : (Step.write? ⟨before, move⟩).toList.map (·.2)
          = ((before.deed? move).bind Deed.update?).toList := by
        rw [Step.write?, Step.update?, Step.deed?]
        cases (before.deed? move).bind Deed.update? <;> rfl
      rw [writes_snoc, accepted_snoc, List.map_append, List.flatMap_append, ← ih, hnew,
        List.append_assoc, (effect_of_step? hstep).unwritten_eq before.cancelled, List.append_assoc]
      rfl

section

variable {settings : PollerSettings} {store : σ} {now : Instant} {steps : List (Step σ)}
  {pipeline : Pipeline σ}

/-- What is picked at most once of the writes of each result of a device was written in the order of these results. -/
theorem Run.filterMap_writes_sublist (run : Run (create settings store now) steps pipeline) {id : Uuid}
    {β : Type} {pick : StoreUpdate → Option β} {of : PollResult → β}
    (hpick : ∀ result : PollResult, (result.writes.filterMap pick).Sublist
      (if result.deviceId = id then [of result] else [])) :
    (((writes steps).map (·.2)).filterMap pick).Sublist ((PollResult.own id (accepted steps)).map of) := by
  refine List.Sublist.trans ?_ (PollResult.filterMap_flatMap_writes hpick (accepted steps))
  rw [← run.writes_append_unwritten, List.filterMap_append]
  exact List.sublist_append_left _ _

omit [Store σ] in
theorem IsChronological.own {start : Instant} {results : List PollResult} {pipeline : Pipeline σ}
    (hchronological : pipeline.IsChronological start results) (id : Uuid) :
    (PollResult.own id results).Pairwise fun result later => result.completedAt ≤ later.startedAt := by
  refine List.pairwise_filter.2 (hchronological.ordered.imp ?_)
  intro result later hordered hresult hlater
  exact hordered ((beq_iff_eq.1 hresult).trans (beq_iff_eq.1 hlater).symm)

omit [Store σ] in
theorem IsChronological.sorted {start : Instant} {results : List PollResult} {pipeline : Pipeline σ}
    (hchronological : pipeline.IsChronological start results) (id : Uuid) {time : PollResult → Instant}
    (hbetween : ∀ result, result.startedAt ≤ result.completedAt →
      result.startedAt ≤ time result ∧ time result ≤ result.completedAt) :
    ((PollResult.own id results).Pairwise fun result later => time result ≤ time later)
      ∧ ∀ result ∈ PollResult.own id results, start ≤ time result := by
  have hstamped (result : PollResult) (hmem : result ∈ PollResult.own id results) :
      result.IsStamped start pipeline.now :=
    hchronological.stamped result (List.mem_of_mem_filter hmem)
  refine ⟨(hchronological.own id).imp_of_mem ?_, fun result hmem => ?_⟩
  · intro result later hresult hlater hle
    have hdone := (hbetween result (hstamped result hresult).ended).2
    have hbegan := (hbetween later (hstamped later hlater).ended).1
    exact le_trans hdone (le_trans hle hbegan)
  · exact le_trans (hstamped result hmem).began (hbetween result (hstamped result hmem).ended).1

omit [Store σ] in
/-- In a database times are whole milliseconds, which keep the order. -/
theorem IsChronological.sorted_millis {start : Instant} {results : List PollResult}
    {pipeline : Pipeline σ} (hchronological : pipeline.IsChronological start results) (id : Uuid)
    {time : PollResult → Instant} (hstart : start.IsOrdinary)
    (htime : ∀ result, time result = result.startedAt ∨ time result = result.completedAt) :
    ((PollResult.own id results).Pairwise fun result later =>
        (time result).toMillis ≤ (time later).toMillis)
      ∧ ∀ result ∈ PollResult.own id results, start.toMillis ≤ (time result).toMillis := by
  have hbetween (result : PollResult) (hended : result.startedAt ≤ result.completedAt) :
      result.startedAt ≤ time result ∧ time result ≤ result.completedAt := by
    rcases htime result with htime | htime <;> rw [htime]
    · exact ⟨le_refl _, hended⟩
    · exact ⟨hended, le_refl _⟩
  obtain ⟨hsorted, hfirst⟩ := hchronological.sorted id hbetween
  refine ⟨hsorted.imp_of_mem ?_, fun result hmem => Instant.toMillis_mono hstart (hfirst result hmem)⟩
  intro result later hresult _ hle
  obtain ⟨hstarted, hcompleted⟩ :=
    (hchronological.stamped result (List.mem_of_mem_filter hresult)).ordinary
  refine Instant.toMillis_mono ?_ hle
  rcases htime result with htime | htime <;> rw [htime]
  · exact hstarted
  · exact hcompleted

/-- What a run wrote of a device is in the order of its rows, behind older rows in order. -/
theorem Run.pairwise_rows (run : Run (create settings store now) steps pipeline)
    (hchronological : pipeline.IsChronological now (accepted steps)) (hnow : now.IsOrdinary) {id : Uuid}
    {ι ρ : Type} {pick : StoreUpdate → Option ι} {of : PollResult → ι} (row : ι → ρ) (stamp : ρ → Int)
    (time : PollResult → Instant)
    (hpick : ∀ result : PollResult, (result.writes.filterMap pick).Sublist
      (if result.deviceId = id then [of result] else []))
    (htime : ∀ result, time result = result.startedAt ∨ time result = result.completedAt)
    (hstamp : ∀ result, stamp (row (of result)) = (time result).toMillis) {old : List ρ}
    (hold : old.Pairwise fun newer older => stamp older ≤ stamp newer)
    (hlast : ∀ row ∈ old, stamp row ≤ now.toMillis) :
    ((((writes steps).map (·.2)).filterMap pick).reverse.map row ++ old).Pairwise
      fun newer older => stamp older ≤ stamp newer := by
  obtain ⟨hsorted, hfirst⟩ := hchronological.sorted_millis id hnow htime
  have hsublist := run.filterMap_writes_sublist hpick
  refine Database.pairwise_front (List.Pairwise.sublist hsublist ?_) (fun item hmem => ?_) hold hlast
  · rw [List.pairwise_map]
    exact hsorted.imp fun hle => by rwa [hstamp, hstamp]
  · obtain ⟨result, hresult, rfl⟩ := List.mem_map.1 (hsublist.subset hmem)
    rw [hstamp]
    exact hfirst result hresult

/-- In a faithful run whose adapters stamp their results while they poll, the accepted results of a device follow each other in time: each was complete before the next one was begun. So the time of the last poll of a device is never moved back. And a database to which the writes of the run are told, whose older rows are in order and from before the run, lists the records of the device in the order in which they were written, and has the point that was written last for its latest. -/
theorem polls_in_sequence (run : Run (create settings store now) steps pipeline)
    (hnow : now.IsOrdinary) (hfaithful : ∀ step ∈ steps, step.IsFaithful)
    (hstamped : ∀ step ∈ steps, step.IsStamped) (id : Uuid) :
    (∀ result ∈ PollResult.own id (accepted steps), result.startedAt ≤ result.completedAt)
      ∧ ((PollResult.own id (accepted steps)).Pairwise fun result later =>
        result.completedAt ≤ later.startedAt)
      ∧ pipeline.store = replay store (writes steps)
      ∧ (now :: ((writes steps).map (·.2)).filterMap (StoreUpdate.mark? id)).Pairwise (· ≤ ·)
      ∧ ∀ database : Database, database.IsInOrder id now →
        let records := ((writes steps).map (·.2)).filterMap (StoreUpdate.record? id)
        let points := ((writes steps).map (·.2)).filterMap (StoreUpdate.point? id)
        let after := replay database (writes steps)
        (∀ clock limit, after.history clock id limit = RecordRow.toRecords clock
            ((records.reverse.map RecordRow.ofRecord ++ database.recordsOf id).take limit))
          ∧ ∀ clock, after.latestMetrics? clock id
            = Database.newestPoint? clock id (points.reverse.map PointRow.ofPoint ++ database.pointsOf id) := by
  have hchronological := run.isChronological hfaithful hstamped
  refine ⟨fun result hmem => (hchronological.stamped result (List.mem_of_mem_filter hmem)).ended,
    hchronological.own id, run.store_eq_replay, ?_, fun database hdatabase => ⟨fun clock limit => ?_, fun clock => ?_⟩⟩
  · obtain ⟨hsorted, hfirst⟩ := hchronological.sorted id (fun _ hended => ⟨le_refl _, hended⟩)
    have hmarks : (((writes steps).map (·.2)).filterMap (StoreUpdate.mark? id)).Sublist
        ((PollResult.own id (accepted steps)).map (·.startedAt)) :=
      run.filterMap_writes_sublist (PollResult.filterMap_mark?_writes id)
    refine List.pairwise_cons.2 ⟨fun mark hmem => ?_,
      List.Pairwise.sublist hmarks (List.pairwise_map.2 hsorted)⟩
    obtain ⟨result, hresult, rfl⟩ := List.mem_map.1 (hmarks.subset hmem)
    exact hfirst result hresult
  · have hrows := run.pairwise_rows hchronological hnow RecordRow.ofRecord RecordRow.startedAt
      PollResult.startedAt (PollResult.filterMap_record?_writes id)
      (fun _ => .inl rfl) (fun _ => rfl) hdatabase.records hdatabase.began
    rw [← Database.recordsOf_replay] at hrows ⊢
    exact Database.history_of_sorted hrows clock limit
  · have hrows := run.pairwise_rows hchronological hnow PointRow.ofPoint PointRow.timestamp
      PollResult.completedAt (PollResult.filterMap_point?_writes id)
      (fun _ => .inr rfl) (fun _ => rfl) hdatabase.points hdatabase.taken
    rw [← Database.pointsOf_replay] at hrows ⊢
    exact Database.latestMetrics?_of_sorted hrows clock

end

/-- A poll that succeeded, and the next one of the same device, in which an adapter crashed. -/
theorem polls_in_sequence_single : ∃ (steps : List (Step MemoryStore)) (pipeline : Pipeline MemoryStore),
    Run single steps pipeline
    ∧ (PollResult.own ⟨1⟩ (accepted steps)).map (fun result => (result.startedAt, result.completedAt))
      = [(⟨1000, 0⟩, ⟨1001, 0⟩), (⟨1001, 0⟩, ⟨1002, 0⟩)]
    ∧ (∀ result ∈ PollResult.own ⟨1⟩ (accepted steps), result.startedAt ≤ result.completedAt)
    ∧ ((PollResult.own ⟨1⟩ (accepted steps)).Pairwise fun result later =>
      result.completedAt ≤ later.startedAt)
    ∧ pipeline.store = replay single.store (writes steps)
    ∧ (Instant.mk 1000 0 :: ((writes steps).map (·.2)).filterMap (StoreUpdate.mark? ⟨1⟩)).Pairwise (· ≤ ·)
    ∧ ∀ clock, (replay (Database.create "polls.db") (writes steps)).history clock ⟨1⟩ 10
      = RecordRow.toRecords clock (((((writes steps).map Prod.snd).filterMap
        (StoreUpdate.record? ⟨1⟩)).reverse.map RecordRow.ofRecord ++ []).take 10) := by
  have hrun : (single.follow? (lateMoves ++ [.proceed, .proceed, .take 0, .consider 0, .advance ⟨1002, 0⟩,
      .conclude 0 .crashed, .forward 0, .accept, .write, .write, .release])).any (fun (steps, _) =>
        decide (∀ step ∈ steps, step.IsFaithful ∧ step.IsStamped)
          && decide ((PollResult.own ⟨1⟩ (accepted steps)).map
            (fun result => (result.startedAt, result.completedAt))
            = [(⟨1000, 0⟩, ⟨1001, 0⟩), (⟨1001, 0⟩, ⟨1002, 0⟩)])) = true := by decide +kernel
  obtain ⟨⟨steps, pipeline⟩, hfollow, hlast⟩ := (Option.any_eq_true _ _).1 hrun
  simp only [Bool.and_eq_true, decide_eq_true_eq] at hlast
  obtain ⟨hsteps, htimes⟩ := hlast
  have run : Run single steps pipeline := Run.refl.follow hfollow
  obtain ⟨hended, hordered, hstore, hmarks, hdatabase⟩ := polls_in_sequence run (by decide)
    (fun step hmem => (hsteps step hmem).1) (fun step hmem => (hsteps step hmem).2) ⟨1⟩
  exact ⟨steps, pipeline, run, htimes, hended, hordered, hstore, hmarks,
    fun clock => (hdatabase _ (Database.isInOrder_create _ _ _)).1 clock 10⟩

end Pipeline

end RouterPoll
