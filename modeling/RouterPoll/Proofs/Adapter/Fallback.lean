import RouterPoll.Adapter.Script
import RouterPoll.Proofs.Adapter.Alike
import RouterPoll.Proofs.Store.Memory

/-!
# What a poll through a registry does

A poll tries the candidates one after another and stops at the first success, or when it is called off. To say which candidates it polls, every adapter is made to write its polls down in the surroundings. A registry that is written down like this is alike to the one it was, so the written polls are the polls that are made, and the end of the poll is read off them: `Course` has one case for each thing that can happen next, and `IsFallback` is what all courses have in common.
-/

namespace RouterPoll

/-! ### Verdicts -/

namespace Attempt

/-- The attempt brings back a result for which no other candidate is polled. -/
inductive Succeeds : Attempt → PollResult → Prop where
  | answered {result : PollResult} (hsuccess : result.success = true) :
      Succeeds (.answered result) result

/-- The attempt fails, and this is remembered of it. -/
inductive Fails : Attempt → String → Prop where
  | silent {result : PollResult} (hsuccess : result.success = false) (herror : result.error = none) :
      Fails (.answered result) "poll reported failure"
  | answered {result : PollResult} {message : String} (hsuccess : result.success = false)
      (herror : result.error = some message) : Fails (.answered result) message
  | refused (error : PollError) (result : PollResult) (now : Instant) :
      Fails (.refused (SessionFailure.of error result now)) error.message
  | crashed : Fails .crashed "adapter panicked during poll"

/-- The attempt returns, and a session that it could not open failed with the wording of its cause. -/
def IsRegular (attempt : Attempt) : Prop :=
  (∃ result, attempt.Succeeds result) ∨ ∃ message, attempt.Fails message

/-- The same attempt, or in place of a refused session an unsuccessful answer with the same message. -/
inductive IsReplaced : Attempt → Attempt → Prop where
  | same (attempt : Attempt) : IsReplaced attempt attempt
  | refused (error : PollError) (result : PollResult) (now : Instant) {answer : PollResult}
      (hsuccess : answer.success = false) (herror : answer.error = some error.message) :
      IsReplaced (.refused (SessionFailure.of error result now)) (.answered answer)

variable {attempt : Attempt} {result : PollResult} {message : String}

theorem Succeeds.verdict? (hsucceeds : attempt.Succeeds result) :
    Registry.verdict? attempt = some (.succeeded result) := by
  cases hsucceeds with
  | answered hsuccess => simp only [Registry.verdict?, Registry.judge, hsuccess, if_true]

theorem Fails.verdict? (hfails : attempt.Fails message) :
    Registry.verdict? attempt = some (.failed message) := by
  cases hfails with
  | silent hsuccess herror => simp [Registry.verdict?, Registry.judge, hsuccess, herror]
  | answered hsuccess herror => simp [Registry.verdict?, Registry.judge, hsuccess, herror]
  | refused error result now => rfl
  | crashed => rfl

theorem Fails.not_succeeds (hfails : attempt.Fails message) : ¬ attempt.Succeeds result := by
  intro hsucceeds
  cases hsucceeds.verdict?.symm.trans hfails.verdict?

theorem IsReplaced.verdict?_eq {other : Attempt} (hreplaced : attempt.IsReplaced other) :
    Registry.verdict? other = Registry.verdict? attempt := by
  cases hreplaced with
  | same => rfl
  | refused error result now hsuccess herror =>
      exact (Fails.answered hsuccess herror).verdict?.trans (Fails.refused error result now).verdict?.symm

end Attempt

/-- Whatever is around it, the poll of the device by the adapter returns. -/
def Adapter.IsRegular {ε : Type} (adapter : Adapter ε) (device : Device) : Prop :=
  ∀ env, (adapter.poll device env).1.IsRegular

/-- Two adapters that differ only in how some of their polls say that no session could be opened. -/
structure Adapter.IsReplaced {ε : Type} (device : Device) (adapter other : Adapter ε) : Prop extends
    adapter.IsAlike device other where
  attempt : ∀ env, (adapter.poll device env).1.IsReplaced (other.poll device env).1
  after : ∀ env, (other.poll device env).2 = (adapter.poll device env).2

/-! ### Polls that are written down -/

/-- One poll: what was around before and after it, and how it ended. -/
structure Visit (ε : Type) where
  adapter : Adapter ε
  before : ε
  attempt : Attempt
  after : ε

structure Recorded (ε : Type) where
  scene : ε
  visits : List (Visit ε)

instance {ε : Type} [Surroundings ε] : Surroundings (Recorded ε) where
  isCancelled recorded := Surroundings.isCancelled recorded.scene
  now recorded := Surroundings.now recorded.scene

def Adapter.visit {ε : Type} (adapter : Adapter ε) (device : Device) (env : ε) : Visit ε :=
  ⟨adapter, env, (adapter.poll device env).1, (adapter.poll device env).2⟩

/-- The adapter, which also writes its polls down. -/
def Adapter.recorded {ε : Type} (adapter : Adapter ε) : Adapter (Recorded ε) where
  name := adapter.name
  method := adapter.method
  canHandle := adapter.canHandle
  poll device recorded :=
    let visit := adapter.visit device recorded.scene
    (visit.attempt, ⟨visit.after, recorded.visits ++ [visit]⟩)
  checkHealth device recorded :=
    let (health, scene) := adapter.checkHealth device recorded.scene
    (health, { recorded with scene })
  supportedMetrics := adapter.supportedMetrics

def Registry.recorded {ε : Type} (registry : Registry ε) : Registry (Recorded ε) :=
  ⟨registry.adapters.map Adapter.recorded⟩

section

variable {ε : Type} {device : Device}

theorem Adapter.isAlike_recorded (adapter : Adapter ε) : adapter.IsAlike device adapter.recorded :=
  ⟨rfl, rfl, rfl⟩

theorem Registry.forall₂_recorded (registry : Registry ε) :
    List.Forall₂ (fun adapter other => adapter.recorded = other) registry.adapters
      registry.recorded.adapters := by
  rw [recorded, List.forall₂_map_right_iff]
  exact List.forall₂_same.2 fun _ _ => rfl

theorem Registry.selectOrdered_recorded (registry : Registry ε) :
    registry.recorded.selectOrdered device
      = (registry.selectOrdered device).map (·.map Adapter.recorded) := by
  have hselected : Option.Rel (List.Forall₂ fun adapter other => adapter.recorded = other)
      (registry.selectOrdered device) (registry.recorded.selectOrdered device) := by
    refine forall₂_selectOrdered ?_ registry.forall₂_recorded
    rintro adapter _ rfl
    exact adapter.isAlike_recorded
  generalize registry.selectOrdered device = candidates at hselected ⊢
  generalize registry.recorded.selectOrdered device = others at hselected ⊢
  cases hselected with
  | none => rfl
  | some hcandidates =>
      rw [← List.forall₂_map_left_iff, List.forall₂_eq_eq_eq] at hcandidates
      rw [← hcandidates]
      rfl

end

variable {ε : Type} [Surroundings ε] {device : Device}

@[simp] theorem Recorded.isCancelled_eq (recorded : Recorded ε) :
    Surroundings.isCancelled recorded = Surroundings.isCancelled recorded.scene := rfl

/-- Writing polls down changes neither the end nor what is around then. -/
theorem Registry.pollWithFallback_recorded (registry : Registry ε) (env : ε) (visits : List (Visit ε)) :
    (registry.recorded.pollWithFallback device ⟨env, visits⟩).1 = (registry.pollWithFallback device env).1
      ∧ (registry.recorded.pollWithFallback device ⟨env, visits⟩).2.scene
        = (registry.pollWithFallback device env).2 := by
  refine pollWithFallback_of_forall₂ (R := fun adapter other => adapter.recorded = other)
    (E := fun env recorded => recorded.scene = env) ?_ ?_ ?_ registry.forall₂_recorded rfl
  · rintro adapter _ rfl
    exact adapter.isAlike_recorded
  · rintro _ recorded rfl
    rfl
  · rintro adapter _ _ recorded rfl rfl
    exact ⟨rfl, rfl⟩

theorem Registry.pollWithFallback_of_recorded (registry : Registry ε) {env after : ε}
    {visits : List (Visit ε)} {ending : FallbackEnd}
    (hrecorded : registry.recorded.pollWithFallback device ⟨env, []⟩ = (ending, ⟨after, visits⟩)) :
    registry.pollWithFallback device env = (ending, after) := by
  obtain ⟨hending, hafter⟩ := @pollWithFallback_recorded _ _ device registry env []
  rw [hrecorded] at hending hafter
  exact Prod.ext hending.symm hafter.symm

/-! ### The course of the polls -/

/-- How candidates are tried from some surroundings on: the polls that are made, what is around afterwards, and the end. -/
inductive Course (device : Device) (attempted : Nat) :
    List (Adapter ε) → String → ε → List (Visit ε) → ε → FallbackEnd → Prop where
  | cancelled {candidates : List (Adapter ε)} {lastError : String} {env : ε}
      (hcancelled : Surroundings.isCancelled env = true) :
      Course device attempted candidates lastError env [] env (.settled (.error .cancelled))
  | exhausted {lastError : String} {env : ε} (hcancelled : Surroundings.isCancelled env = false) :
      Course device attempted [] lastError env [] env
        (.settled (.error (.allAdaptersFailed attempted lastError)))
  | succeeded {adapter : Adapter ε} {rest : List (Adapter ε)} {lastError : String} {env : ε}
      {result : PollResult} (hcancelled : Surroundings.isCancelled env = false)
      (hsucceeds : (adapter.visit device env).attempt.Succeeds result) :
      Course device attempted (adapter :: rest) lastError env [adapter.visit device env]
        (adapter.visit device env).after (.settled (.ok result))
  | failed {adapter : Adapter ε} {rest : List (Adapter ε)} {lastError message : String} {env after : ε}
      {visits : List (Visit ε)} {ending : FallbackEnd} (hcancelled : Surroundings.isCancelled env = false)
      (hfails : (adapter.visit device env).attempt.Fails message)
      (hrest : Course device attempted rest (Registry.failureText adapter.name message)
        (adapter.visit device env).after visits after ending) :
      Course device attempted (adapter :: rest) lastError env (adapter.visit device env :: visits) after
        ending

variable {attempted : Nat} {candidates : List (Adapter ε)} {lastError : String} {env after : ε}
  {visits : List (Visit ε)} {ending : FallbackEnd}

/-- Candidates whose polls return are tried in some course, and its polls are written down. -/
theorem Registry.course_of_tryEach (hregular : ∀ adapter ∈ candidates, adapter.IsRegular device)
    (lastError : String) (env : ε) (visits : List (Visit ε)) : ∃ made after ending,
      tryEach device attempted (candidates.map Adapter.recorded) lastError ⟨env, visits⟩
          = (ending, ⟨after, visits ++ made⟩)
        ∧ Course device attempted candidates lastError env made after ending := by
  induction candidates generalizing lastError env visits with
  | nil =>
      rw [List.map_nil, tryEach, Recorded.isCancelled_eq]
      cases hcancelled : Surroundings.isCancelled env with
      | true => exact ⟨[], env, _, by simp, .cancelled hcancelled⟩
      | false => exact ⟨[], env, _, by simp, .exhausted hcancelled⟩
  | cons adapter rest ih =>
      rw [List.map_cons, tryEach, Recorded.isCancelled_eq]
      cases hcancelled : Surroundings.isCancelled env with
      | true => exact ⟨[], env, _, by simp, .cancelled hcancelled⟩
      | false =>
          have hpoll : adapter.recorded.poll device ⟨env, visits⟩ = ((adapter.visit device env).attempt,
            ⟨(adapter.visit device env).after, visits ++ [adapter.visit device env]⟩) := rfl
          simp only [hpoll, Bool.false_eq_true, if_false]
          rcases hregular adapter List.mem_cons_self env with ⟨result, hsucceeds⟩ | ⟨message, hfails⟩
          · change (adapter.visit device env).attempt.Succeeds result at hsucceeds
            rw [hsucceeds.verdict?]
            exact ⟨[adapter.visit device env], _, _, rfl, .succeeded hcancelled hsucceeds⟩
          · change (adapter.visit device env).attempt.Fails message at hfails
            rw [hfails.verdict?]
            obtain ⟨made, after, ending, htry, hcourse⟩ := ih
              (fun other hmem => hregular other (List.mem_cons_of_mem _ hmem))
              (failureText adapter.name message) (adapter.visit device env).after
              (visits ++ [adapter.visit device env])
            refine ⟨adapter.visit device env :: made, after, ending, ?_, .failed hcancelled hfails hcourse⟩
            rw [List.append_assoc] at htry
            exact htry

/-! ### What all courses have in common -/

/-- Each poll begins in what the one before it left. -/
def IsThread (device : Device) : ε → List (Visit ε) → ε → Prop
  | env, [], after => after = env
  | env, visit :: rest, after =>
    visit = visit.adapter.visit device env ∧ IsThread device visit.after rest after

/-- What is remembered of the last failure, if there was one. -/
def Remembers (lastError : String) (visits : List (Visit ε)) (text : String) : Prop :=
  match visits.getLast? with
  | none => text = lastError
  | some last => ∃ message, last.attempt.Fails message ∧ text = last.adapter.name ++ ": " ++ message

namespace Course

omit [Surroundings ε] in
theorem remembers_cons {visit : Visit ε} {message text : String} (hfails : visit.attempt.Fails message)
    (hremembers : Remembers (Registry.failureText visit.adapter.name message) visits text) :
    Remembers lastError (visit :: visits) text := by
  cases visits with
  | nil => exact ⟨message, hfails, hremembers⟩
  | cons next rest =>
      unfold Remembers at hremembers ⊢
      rw [List.getLast?_cons_cons]
      exact hremembers

theorem adapters_prefix (hcourse : Course device attempted candidates lastError env visits after ending) :
    visits.map (·.adapter) <+: candidates := by
  induction hcourse with
  | cancelled => exact List.nil_prefix
  | exhausted => exact List.nil_prefix
  | succeeded => exact List.prefix_cons_inj _ |>.2 List.nil_prefix
  | failed _ _ _ ih => exact List.prefix_cons_inj _ |>.2 ih

theorem isThread (hcourse : Course device attempted candidates lastError env visits after ending) :
    IsThread device env visits after := by
  induction hcourse with
  | cancelled => rfl
  | exhausted => rfl
  | succeeded => exact ⟨rfl, rfl⟩
  | failed _ _ _ ih => exact ⟨rfl, ih⟩

theorem not_cancelled (hcourse : Course device attempted candidates lastError env visits after ending) :
    ∀ visit ∈ visits, Surroundings.isCancelled visit.before = false := by
  induction hcourse with
  | cancelled => exact fun _ hmem => absurd hmem List.not_mem_nil
  | exhausted => exact fun _ hmem => absurd hmem List.not_mem_nil
  | succeeded hcancelled _ =>
      intro visit hmem
      rw [List.mem_singleton.1 hmem]
      exact hcancelled
  | failed hcancelled _ _ ih =>
      intro visit hmem
      rcases List.mem_cons.1 hmem with rfl | hmem
      · exact hcancelled
      · exact ih visit hmem

theorem ending_cases (hcourse : Course device attempted candidates lastError env visits after ending) :
    (∃ earlier last result, visits = earlier ++ [last]
        ∧ (∀ visit ∈ earlier, ∃ message, visit.attempt.Fails message) ∧ last.attempt.Succeeds result
        ∧ ending = .settled (.ok result))
      ∨ (∀ visit ∈ visits, ∃ message, visit.attempt.Fails message)
        ∧ (Surroundings.isCancelled after = true ∧ ending = .settled (.error .cancelled)
          ∨ Surroundings.isCancelled after = false ∧ visits.map (·.adapter) = candidates
            ∧ ∃ text, Remembers lastError visits text
              ∧ ending = .settled (.error (.allAdaptersFailed attempted text))) := by
  induction hcourse with
  | cancelled hcancelled => exact .inr ⟨fun _ hmem => absurd hmem List.not_mem_nil, .inl ⟨hcancelled, rfl⟩⟩
  | exhausted hcancelled =>
      exact .inr ⟨fun _ hmem => absurd hmem List.not_mem_nil, .inr ⟨hcancelled, rfl, _, rfl, rfl⟩⟩
  | succeeded _ hsucceeds =>
      exact .inl ⟨[], _, _, rfl, fun _ hmem => absurd hmem List.not_mem_nil, hsucceeds, rfl⟩
  | @failed adapter _ _ message env _ visits _ hcancelled hfails _ ih =>
      have hcons {later : List (Visit ε)} (hlater : ∀ visit ∈ later, ∃ message, visit.attempt.Fails message) :
          ∀ visit ∈ adapter.visit device env :: later, ∃ message, visit.attempt.Fails message := by
        intro visit hmem
        rcases List.mem_cons.1 hmem with rfl | hmem
        · exact ⟨message, hfails⟩
        · exact hlater visit hmem
      rcases ih with ⟨earlier, last, result, rfl, hearlier, hsucceeds, hending⟩ | ⟨hall, hend⟩
      · exact .inl ⟨adapter.visit device env :: earlier, last, result, rfl, hcons hearlier, hsucceeds,
          hending⟩
      · refine .inr ⟨hcons hall, ?_⟩
        rcases hend with hcancel | ⟨hleft, hadapters, text, hremembers, hending⟩
        · exact .inl hcancel
        · refine .inr ⟨hleft, ?_, text, remembers_cons hfails hremembers, hending⟩
          rw [List.map_cons, hadapters]
          rfl

end Course

/-- How polling a device through candidates ends, read off the polls that were made. -/
structure IsFallback (device : Device) (candidates : List (Adapter ε)) (env : ε) (visits : List (Visit ε))
    (after : ε) (ending : FallbackEnd) : Prop where
  /-- The first candidates are polled, in order and each once. -/
  adapters_prefix : visits.map (·.adapter) <+: candidates
  isThread : IsThread device env visits after
  not_cancelled : ∀ visit ∈ visits, Surroundings.isCancelled visit.before = false
  /-- A result is given if the last candidate polled brought it back and all before it failed. -/
  ok_iff (result : PollResult) : ending = .settled (.ok result) ↔ ∃ earlier last,
    visits = earlier ++ [last] ∧ (∀ visit ∈ earlier, ∃ message, visit.attempt.Fails message)
      ∧ last.attempt.Succeeds result
  noSuitableAdapter_iff (name : String) : ending = .settled (.error (.noSuitableAdapter name)) ↔
    candidates = [] ∧ visits = [] ∧ name = device.name
  /-- The poll is called off if no candidate succeeded when it had to stop. -/
  cancelled_iff : ending = .settled (.error .cancelled) ↔ candidates ≠ []
    ∧ (∀ visit ∈ visits, ∀ result, ¬ visit.attempt.Succeeds result) ∧ Surroundings.isCancelled after = true
  /-- Otherwise all candidates were polled, and the failure of the last is remembered. -/
  otherwise (hsome : candidates ≠ []) (hfailed : ∀ result, ending ≠ .settled (.ok result))
    (hleft : ending ≠ .settled (.error .cancelled)) : visits.map (·.adapter) = candidates
      ∧ ∃ last message, visits.getLast? = some last ∧ last.attempt.Fails message
        ∧ ending = .settled (.error (.allAdaptersFailed candidates.length
          (last.adapter.name ++ ": " ++ message)))

theorem isFallback_nil (device : Device) (env : ε) : IsFallback device [] env [] env
    (.settled (.error (.noSuitableAdapter device.name))) where
  adapters_prefix := List.prefix_rfl
  isThread := rfl
  not_cancelled _ hmem := absurd hmem List.not_mem_nil
  ok_iff result := by
    constructor
    · intro hending
      cases hending
    · rintro ⟨earlier, last, hvisits, _⟩
      cases List.append_ne_nil_of_right_ne_nil earlier (List.cons_ne_nil last []) hvisits.symm
  noSuitableAdapter_iff name := by
    constructor
    · intro hending
      cases hending
      exact ⟨rfl, rfl, rfl⟩
    · rintro ⟨_, _, rfl⟩
      rfl
  cancelled_iff := by
    constructor
    · intro hending
      cases hending
    · rintro ⟨hsome, _⟩
      exact absurd rfl hsome
  otherwise hsome := absurd rfl hsome

theorem Course.isFallback (hsome : candidates ≠ [])
    (hcourse : Course device candidates.length candidates "" env visits after ending) :
    IsFallback device candidates env visits after ending where
  adapters_prefix := hcourse.adapters_prefix
  isThread := hcourse.isThread
  not_cancelled := hcourse.not_cancelled
  ok_iff result := by
    rcases hcourse.ending_cases with
      ⟨earlier, last, found, hvisits, hearlier, hsucceeds, rfl⟩ | ⟨hall, hend⟩
    · constructor
      · intro hending
        cases hending
        exact ⟨earlier, last, hvisits, hearlier, hsucceeds⟩
      · rintro ⟨others, final, hother, _, hfinal⟩
        obtain ⟨_, hlast⟩ := List.append_inj' (hvisits.symm.trans hother) rfl
        cases hlast
        cases hsucceeds.verdict?.symm.trans hfinal.verdict?
        rfl
    · constructor
      · intro hending
        rcases hend with ⟨_, rfl⟩ | ⟨_, _, _, _, rfl⟩ <;> cases hending
      · rintro ⟨others, final, rfl, _, hfinal⟩
        obtain ⟨_, hfails⟩ := hall final (List.mem_append_right _ (List.mem_singleton.2 rfl))
        exact absurd hfinal hfails.not_succeeds
  noSuitableAdapter_iff name := by
    refine iff_of_false ?_ fun hnone => hsome hnone.1
    intro hending
    rcases hcourse.ending_cases with ⟨_, _, _, _, _, _, rfl⟩ | ⟨_, ⟨_, rfl⟩ | ⟨_, _, _, _, rfl⟩⟩ <;>
      cases hending
  cancelled_iff := by
    rcases hcourse.ending_cases with
      ⟨earlier, last, found, rfl, _, hsucceeds, rfl⟩ | ⟨hall, hend⟩
    · constructor
      · intro hending
        cases hending
      · rintro ⟨_, hnone, _⟩
        exact absurd hsucceeds (hnone last (List.mem_append_right _ (List.mem_singleton.2 rfl)) found)
    · have hnone : ∀ visit ∈ visits, ∀ result, ¬ visit.attempt.Succeeds result := by
        intro visit hmem result
        obtain ⟨_, hfails⟩ := hall visit hmem
        exact hfails.not_succeeds
      rcases hend with ⟨hcancelled, rfl⟩ | ⟨hleft, _, _, _, rfl⟩
      · exact iff_of_true rfl ⟨hsome, hnone, hcancelled⟩
      · constructor
        · intro hending
          cases hending
        · rintro ⟨_, _, hcancelled⟩
          rw [hleft] at hcancelled
          cases hcancelled
  otherwise _ hfailed hleft := by
    rcases hcourse.ending_cases with
      ⟨_, _, found, _, _, _, hending⟩ | ⟨_, ⟨_, hending⟩ | ⟨_, hadapters, text, hremembers, hending⟩⟩
    · exact absurd hending (hfailed found)
    · exact absurd hending hleft
    · refine ⟨hadapters, ?_⟩
      unfold Remembers at hremembers
      split at hremembers
      · rename_i hnone
        rw [List.getLast?_eq_none_iff] at hnone
        rw [hnone] at hadapters
        exact absurd hadapters.symm hsome
      · rename_i last hlast
        obtain ⟨message, hfails, rfl⟩ := hremembers
        exact ⟨last, message, hlast, hfails, hending⟩

namespace Registry

variable {registry : Registry ε}

theorem exists_course (hselect : registry.selectOrdered device = some candidates)
    (hsome : candidates ≠ []) (hregular : ∀ adapter ∈ candidates, adapter.IsRegular device) (env : ε) :
    ∃ ending visits after,
      registry.recorded.pollWithFallback device ⟨env, []⟩ = (ending, ⟨after, visits⟩)
        ∧ Course device candidates.length candidates "" env visits after ending := by
  obtain ⟨adapter, rest, rfl⟩ := List.exists_cons_of_ne_nil hsome
  obtain ⟨visits, after, ending, htry, hcourse⟩ := course_of_tryEach hregular "" env []
  refine ⟨ending, visits, after, ?_, hcourse⟩
  unfold pollWithFallback
  rw [selectOrdered_recorded, hselect, Option.map_some]
  simp only [List.map_cons, List.length_cons, List.length_map] at htry ⊢
  exact htry

theorem exists_isFallback (hselect : registry.selectOrdered device = some candidates)
    (hregular : ∀ adapter ∈ candidates, adapter.IsRegular device) (env : ε) : ∃ ending visits after,
      registry.recorded.pollWithFallback device ⟨env, []⟩ = (ending, ⟨after, visits⟩)
        ∧ IsFallback device candidates env visits after ending := by
  by_cases hsome : candidates = []
  · subst hsome
    unfold pollWithFallback
    rw [selectOrdered_recorded, hselect, Option.map_some]
    exact ⟨_, _, _, rfl, isFallback_nil device env⟩
  · obtain ⟨ending, visits, after, hrecorded, hcourse⟩ := exists_course hselect hsome hregular env
    exact ⟨ending, visits, after, hrecorded, hcourse.isFallback hsome⟩

/-- Replacing refused sessions by unsuccessful answers with the same messages changes nothing, also not who is polled. -/
theorem pollWithFallback_of_isReplaced {other : Registry ε}
    (hreplaced : List.Forall₂ (Adapter.IsReplaced device) registry.adapters other.adapters) (env : ε) :
    (other.recorded.pollWithFallback device ⟨env, []⟩).1
        = (registry.recorded.pollWithFallback device ⟨env, []⟩).1
      ∧ (other.recorded.pollWithFallback device ⟨env, []⟩).2.scene
        = (registry.recorded.pollWithFallback device ⟨env, []⟩).2.scene
      ∧ (other.recorded.pollWithFallback device ⟨env, []⟩).2.visits.map (·.adapter.name)
        = (registry.recorded.pollWithFallback device ⟨env, []⟩).2.visits.map (·.adapter.name) := by
  refine pollWithFallback_of_forall₂
    (R := fun adapter other => ∃ plain plain' : Adapter ε, plain.IsReplaced device plain'
      ∧ adapter = plain.recorded ∧ other = plain'.recorded)
    (E := fun left right => right.scene = left.scene
      ∧ right.visits.map (·.adapter.name) = left.visits.map (·.adapter.name)) ?_ ?_ ?_ ?_ ⟨rfl, rfl⟩
  · rintro _ _ ⟨plain, plain', hplain, rfl, rfl⟩
    exact ⟨hplain.name, hplain.method, hplain.canHandle⟩
  · rintro left right ⟨hscene, _⟩
    rw [Recorded.isCancelled_eq, Recorded.isCancelled_eq, hscene]
  · rintro _ _ ⟨scene, visits⟩ ⟨other, others⟩ ⟨plain, plain', hplain, rfl, rfl⟩ ⟨hscene, hnames⟩
    change other = scene at hscene
    subst hscene
    refine ⟨(hplain.attempt other).verdict?_eq, hplain.after other, ?_⟩
    change (others ++ [plain'.visit device other]).map (·.adapter.name)
      = (visits ++ [plain.visit device other]).map (·.adapter.name)
    rw [List.map_append, List.map_append, hnames]
    exact congrArg (visits.map (·.adapter.name) ++ [·]) hplain.name
  · rw [recorded, recorded, List.forall₂_map_left_iff, List.forall₂_map_right_iff]
    exact hreplaced.imp fun _ _ hplain => ⟨_, _, hplain, rfl, rfl⟩

/-- What a poll through a registry means, if every candidate returns from its polls. -/
theorem pollWithFallback_exact (hselect : registry.selectOrdered device = some candidates)
    (hregular : ∀ adapter ∈ candidates, adapter.IsRegular device) (env : ε) : ∃ ending visits after,
      registry.recorded.pollWithFallback device ⟨env, []⟩ = (ending, ⟨after, visits⟩)
        ∧ registry.pollWithFallback device env = (ending, after)
        ∧ IsFallback device candidates env visits after ending
        ∧ ∀ other : Registry ε,
          List.Forall₂ (Adapter.IsReplaced device) registry.adapters other.adapters → ∃ others,
            other.recorded.pollWithFallback device ⟨env, []⟩ = (ending, ⟨after, others⟩)
              ∧ other.pollWithFallback device env = (ending, after)
              ∧ others.map (·.adapter.name) = visits.map (·.adapter.name) := by
  obtain ⟨ending, visits, after, hrecorded, hfallback⟩ := exists_isFallback hselect hregular env
  refine ⟨ending, visits, after, hrecorded, registry.pollWithFallback_of_recorded hrecorded, hfallback, ?_⟩
  intro other hreplaced
  obtain ⟨hending, hafter, hnames⟩ := pollWithFallback_of_isReplaced hreplaced env
  obtain ⟨⟨_, _, others⟩, hother⟩ : ∃ run, other.recorded.pollWithFallback device ⟨env, []⟩ = run :=
    ⟨_, rfl⟩
  rw [hrecorded, hother] at hending hafter hnames
  cases hending
  cases hafter
  exact ⟨others, hother, other.pollWithFallback_of_recorded hother, hnames⟩

/-- Three adapters that fail in different ways, and one that succeeds. -/
def sample : Registry Rehearsal :=
  let following (number : Nat) (name : String) (act : Script.Act) : Adapter Rehearsal :=
    Script.adapter number ⟨name, .snmp, .always true, ⟨act, []⟩, [], none, []⟩
  ⟨[following 0 "silent" (.failure none), following 1 "refused" (.refusal (.timeout "get" 5)),
    following 2 "crashing" .crash, following 3 "working" (.success default)]⟩

theorem isRegular_of_mem_sample {adapter : Adapter Rehearsal} (hmem : adapter ∈ sample.adapters) :
    adapter.IsRegular (.sample 1) := by
  have hrepeated (act : Script.Act) (polls : Nat) : (Script.Acts.mk act []).at polls = act := by
    cases polls <;> rfl
  intro rehearsal
  simp only [sample, List.mem_cons, List.not_mem_nil, or_false] at hmem
  rcases hmem with rfl | rfl | rfl | rfl <;>
    simp only [Script.adapter, Script.actsFor, List.lookup_nil, Option.getD_none, hrepeated, Script.perform]
  · exact .inr ⟨_, .silent rfl rfl⟩
  · exact .inr ⟨_, .refused _ _ _⟩
  · exact .inr ⟨_, .crashed⟩
  · exact .inl ⟨_, .answered rfl⟩

theorem pollWithFallback_exact_sample : ∃ candidates,
    sample.selectOrdered (.sample 1) = some candidates
      ∧ (∀ adapter ∈ candidates, adapter.IsRegular (.sample 1)) ∧ ∃ ending visits after,
        sample.recorded.pollWithFallback (.sample 1) ⟨⟨false, ⟨1000, 0⟩, []⟩, []⟩ = (ending, ⟨after, visits⟩)
          ∧ sample.pollWithFallback (.sample 1) ⟨false, ⟨1000, 0⟩, []⟩ = (ending, after)
          ∧ IsFallback (.sample 1) candidates ⟨false, ⟨1000, 0⟩, []⟩ visits after ending
          ∧ ∀ other : Registry Rehearsal,
            List.Forall₂ (Adapter.IsReplaced (.sample 1)) sample.adapters other.adapters → ∃ others,
              other.recorded.pollWithFallback (.sample 1) ⟨⟨false, ⟨1000, 0⟩, []⟩, []⟩
                  = (ending, ⟨after, others⟩)
                ∧ other.pollWithFallback (.sample 1) ⟨false, ⟨1000, 0⟩, []⟩ = (ending, after)
                ∧ others.map (·.adapter.name) = visits.map (·.adapter.name) :=
  have hregular : ∀ adapter ∈ sample.adapters, adapter.IsRegular (.sample 1) :=
    fun _ hmem => isRegular_of_mem_sample hmem
  ⟨sample.adapters, rfl, hregular, pollWithFallback_exact rfl hregular _⟩

end Registry

end RouterPoll
