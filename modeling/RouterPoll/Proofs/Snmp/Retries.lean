import Mathlib.Data.Nat.Basic
import RouterPoll.Snmp.Agent

/-!
# How often an object is asked for

A request for one object is repeated as long as it is met with silence and repetitions are left. The attempts are laid out as if each were made and each met with silence, with what is around when each begins; the request follows this layout up to the first attempt that does not lead to the next one. An attempt leads to the next one if it begins, gets no answer in time, and the poll is not called off before the pause after it. So there are five endings, and `Ending` has one case for each. To count the attempts a link is made to write down what is sent over it.
-/

namespace RouterPoll

namespace Snmp

/-! ### Requests that are written down -/

/-- Surroundings, with the requests that were sent in them, the oldest first. -/
structure Sent (ε : Type) where
  scene : ε
  requests : List Request

instance {ε : Type} [Surroundings ε] : Surroundings (Sent ε) where
  isCancelled sent := Surroundings.isCancelled sent.scene
  now sent := Surroundings.now sent.scene

@[simp] theorem Sent.isCancelled_eq {ε : Type} [Surroundings ε] (sent : Sent ε) :
    Surroundings.isCancelled sent = Surroundings.isCancelled sent.scene := rfl

def Link.recorded {ε : Type} (link : Link ε) : Link (Sent ε) where
  send request sent :=
    ((link.send request sent.scene).1, ⟨(link.send request sent.scene).2, sent.requests ++ [request]⟩)
  pause sent := { sent with scene := link.pause sent.scene }

/-! ### Attempts -/

section

variable {ε : Type} [Surroundings ε]

namespace Link

variable (link : Link ε) (oid : Oid)

/-- An attempt that begins in some surroundings: what comes of it, and what is around afterwards. -/
def attempt (env : ε) : Reply × ε := link.send (.get oid) env

/-- What is around when an attempt begins, if all attempts before it were made and met with silence. -/
def beginning (env : ε) : Nat → ε
  | 0 => env
  | count + 1 => link.pause (link.attempt oid (beginning env count)).2

/-- The attempt is made, and there is no answer in time. -/
structure TimesOut (env : ε) : Prop where
  begins : Surroundings.isCancelled env = false
  silent : (link.attempt oid env).1 = .silence

/-- The attempt times out, and the pause after it begins. -/
structure LeadsOn (env : ε) : Prop extends link.TimesOut oid env where
  pauses : Surroundings.isCancelled (link.attempt oid env).2 = false

/-- The poll is called off before the attempt begins, while it runs, or before the pause after it. -/
def IsCalledOff (env : ε) : Prop :=
  Surroundings.isCancelled env = true ∨ (link.attempt oid env).1 = .interrupted
    ∨ Surroundings.isCancelled (link.attempt oid env).2 = true

/-- All attempts before one lead on, so this one comes next. -/
def Reaches (env : ε) (count : Nat) : Prop :=
  ∀ earlier < count, link.LeadsOn oid (link.beginning oid env earlier)

end Link

namespace Session

/-- What a reply means for a request, unless it is silence or the end of the poll: the metric of the first binding, or the error. -/
def outcome? (session : Session) : Reply → Option (Except PollError (Option MetricValue))
  | .bindings bindings => some (.ok (bindings.head?.bind (·.value.metric?)))
  | .faulty reason => some (.error (.protocol ("get from " ++ session.target ++ ": " ++ reason)))
  | .silence => none
  | .interrupted => none

/-- The same request with its attempts counted up in a word of 32 bits. There is no answer when the count overflows. -/
def getCounted (session : Session) (link : Link ε) (oid : Oid) (attempt : Nat) (env : ε) :
    Option (Except PollError (Option MetricValue) × ε) :=
  let (reply, env) := link.exchange (.get oid) env
  match reply with
  | .bindings bindings => some (.ok (firstMetric? bindings), env)
  | .faulty reason =>
    some (.error (.protocol ("get from " ++ session.target ++ ": " ++ reason)), env)
  | .interrupted => some (.error .cancelled, env)
  | .silence =>
    if attempt < session.retries then
      if attempt + 1 < Text.limit32 then
        if Surroundings.isCancelled env then some (.error .cancelled, env)
        else
          let env := link.pause env
          if Surroundings.isCancelled env then some (.error .cancelled, env)
          else getCounted session link oid (attempt + 1) env
      else none
    else some (.error (session.timeout "snmp get"), env)
termination_by session.retries - attempt

/-- How a request ends that is repeated at most `retries` times: the attempts that are made, the answer, and what is around then. -/
inductive Ending (session : Session) (link : Link ε) (oid : Oid) (env : ε) :
    Nat → Except PollError (Option MetricValue) → ε → Prop where
  /-- Called off before an attempt begins, also during the pause before it. -/
  | barred {count : Nat} (hcount : count ≤ session.retries) (hreaches : link.Reaches oid env count)
      (hcancelled : Surroundings.isCancelled (link.beginning oid env count) = true) :
      Ending session link oid env count (.error .cancelled) (link.beginning oid env count)
  /-- Called off before a running attempt is over. -/
  | interrupted {count : Nat} (hcount : count ≤ session.retries) (hreaches : link.Reaches oid env count)
      (hbegins : Surroundings.isCancelled (link.beginning oid env count) = false)
      (hreply : (link.attempt oid (link.beginning oid env count)).1 = .interrupted) :
      Ending session link oid env (count + 1) (.error .cancelled)
        (link.attempt oid (link.beginning oid env count)).2
  /-- Called off between an attempt and the pause after it. -/
  | abandoned {count : Nat} (hcount : count < session.retries) (hreaches : link.Reaches oid env count)
      (htimesOut : link.TimesOut oid (link.beginning oid env count))
      (hcancelled : Surroundings.isCancelled (link.attempt oid (link.beginning oid env count)).2 = true) :
      Ending session link oid env (count + 1) (.error .cancelled)
        (link.attempt oid (link.beginning oid env count)).2
  | answered {count : Nat} {answer : Except PollError (Option MetricValue)} (hcount : count ≤ session.retries)
      (hreaches : link.Reaches oid env count)
      (hbegins : Surroundings.isCancelled (link.beginning oid env count) = false)
      (houtcome : session.outcome? (link.attempt oid (link.beginning oid env count)).1 = some answer) :
      Ending session link oid env (count + 1) answer (link.attempt oid (link.beginning oid env count)).2
  | exhausted (hreaches : link.Reaches oid env session.retries)
      (htimesOut : link.TimesOut oid (link.beginning oid env session.retries)) :
      Ending session link oid env (session.retries + 1) (.error (session.timeout "snmp get"))
        (link.attempt oid (link.beginning oid env session.retries)).2

variable {session : Session} {link : Link ε} {oid : Oid} {env : ε} {retries : Nat} {requests : List Request}

/-! ### One attempt -/

theorem exchange_recorded (hbegins : Surroundings.isCancelled env = false) :
    link.recorded.exchange (.get oid) ⟨env, requests⟩
      = ((link.attempt oid env).1, ⟨(link.attempt oid env).2, requests ++ [.get oid]⟩) := by
  have hrecorded : ¬ Surroundings.isCancelled (⟨env, requests⟩ : Sent ε) = true := ne_true_of_eq_false hbegins
  rw [Link.exchange, if_neg hrecorded]
  rfl

theorem getWith_of_isCancelled (hcancelled : Surroundings.isCancelled env = true) :
    session.getWith link.recorded oid retries ⟨env, requests⟩ = (.error .cancelled, ⟨env, requests⟩) := by
  have hrecorded : Surroundings.isCancelled (⟨env, requests⟩ : Sent ε) = true := hcancelled
  rw [getWith, Link.exchange, if_pos hrecorded]

theorem getWith_of_interrupted (hbegins : Surroundings.isCancelled env = false)
    (hreply : (link.attempt oid env).1 = .interrupted) :
    session.getWith link.recorded oid retries ⟨env, requests⟩
      = (.error .cancelled, ⟨(link.attempt oid env).2, requests ++ [.get oid]⟩) := by
  rw [getWith, exchange_recorded hbegins, hreply]

theorem firstMetric?_eq (bindings : List Binding) :
    firstMetric? bindings = bindings.head?.bind (·.value.metric?) := by
  cases bindings <;> rfl

theorem getWith_of_outcome {answer : Except PollError (Option MetricValue)}
    (hbegins : Surroundings.isCancelled env = false)
    (houtcome : session.outcome? (link.attempt oid env).1 = some answer) :
    session.getWith link.recorded oid retries ⟨env, requests⟩
      = (answer, ⟨(link.attempt oid env).2, requests ++ [.get oid]⟩) := by
  rw [getWith, exchange_recorded hbegins]
  cases hreply : (link.attempt oid env).1 with
  | bindings bindings =>
      rw [hreply, outcome?, ← firstMetric?_eq] at houtcome
      cases houtcome
      rfl
  | faulty reason =>
      rw [hreply] at houtcome
      cases houtcome
      rfl
  | silence | interrupted =>
      rw [hreply] at houtcome
      cases houtcome

theorem getWith_zero_of_timesOut (htimesOut : link.TimesOut oid env) :
    session.getWith link.recorded oid 0 ⟨env, requests⟩
      = (.error (session.timeout "snmp get"), ⟨(link.attempt oid env).2, requests ++ [.get oid]⟩) := by
  rw [getWith, exchange_recorded htimesOut.begins, htimesOut.silent]

theorem getWith_succ_of_abandoned (htimesOut : link.TimesOut oid env)
    (hcancelled : Surroundings.isCancelled (link.attempt oid env).2 = true) :
    session.getWith link.recorded oid (retries + 1) ⟨env, requests⟩
      = (.error .cancelled, ⟨(link.attempt oid env).2, requests ++ [.get oid]⟩) := by
  rw [getWith, exchange_recorded htimesOut.begins, htimesOut.silent]
  exact if_pos hcancelled

/-- A pause in which the poll is called off ends the request like an attempt that does not begin. -/
theorem getWith_succ_of_leadsOn (hleads : link.LeadsOn oid env) :
    session.getWith link.recorded oid (retries + 1) ⟨env, requests⟩
      = session.getWith link.recorded oid retries
          ⟨link.pause (link.attempt oid env).2, requests ++ [.get oid]⟩ := by
  rw [getWith, exchange_recorded hleads.begins, hleads.silent]
  refine (if_neg (ne_true_of_eq_false hleads.pauses)).trans ?_
  by_cases hcancelled : Surroundings.isCancelled (link.pause (link.attempt oid env).2) = true
  · rw [getWith_of_isCancelled hcancelled]
    exact if_pos hcancelled
  · exact if_neg hcancelled

/-! ### One attempt after the other -/

variable {after : ε} {made : Nat} {answer : Except PollError (Option MetricValue)}

theorem getWith_of_reaches {count : Nat} (hreaches : link.Reaches oid env count) :
    session.getWith link.recorded oid (count + retries) ⟨env, []⟩
      = session.getWith link.recorded oid retries
          ⟨link.beginning oid env count, List.replicate count (.get oid)⟩ := by
  induction count generalizing retries with
  | zero => rw [Nat.zero_add]; rfl
  | succ count ih =>
      have hearlier : link.Reaches oid env count := fun earlier hlt => hreaches earlier (Nat.lt_succ_of_lt hlt)
      rw [Nat.add_right_comm, Nat.add_assoc, ih hearlier,
        getWith_succ_of_leadsOn (hreaches count (Nat.lt_succ_self count)), List.replicate_succ']
      rfl

theorem get_of_reaches {count : Nat} (hcount : count ≤ session.retries) (hreaches : link.Reaches oid env count) :
    session.get link.recorded oid ⟨env, []⟩
      = session.getWith link.recorded oid (session.retries - count)
          ⟨link.beginning oid env count, List.replicate count (.get oid)⟩ := by
  rw [← getWith_of_reaches hreaches, Nat.add_sub_cancel' hcount, get]

theorem Ending.get_eq (hending : session.Ending link oid env made answer after) :
    session.get link.recorded oid ⟨env, []⟩ = (answer, ⟨after, List.replicate made (.get oid)⟩) := by
  cases hending with
  | barred hcount hreaches hcancelled =>
      rw [get_of_reaches hcount hreaches, getWith_of_isCancelled hcancelled]
  | interrupted hcount hreaches hbegins hreply =>
      rw [get_of_reaches hcount hreaches, getWith_of_interrupted hbegins hreply, List.replicate_succ']
  | abandoned hcount hreaches htimesOut hcancelled =>
      obtain ⟨left, hleft⟩ := Nat.exists_eq_add_one_of_ne_zero (Nat.sub_ne_zero_of_lt hcount)
      rw [get_of_reaches (Nat.le_of_lt hcount) hreaches, hleft, getWith_succ_of_abandoned htimesOut hcancelled,
        List.replicate_succ']
  | answered hcount hreaches hbegins houtcome =>
      rw [get_of_reaches hcount hreaches, getWith_of_outcome hbegins houtcome, List.replicate_succ']
  | exhausted hreaches htimesOut =>
      rw [get_of_reaches le_rfl hreaches, Nat.sub_self, getWith_zero_of_timesOut htimesOut,
        List.replicate_succ']

/-- Some attempt comes last: it is the first that does not lead on, or the one after which no repetition is left. -/
theorem exists_last (link : Link ε) (oid : Oid) (env : ε) (retries : Nat) : ∃ count ≤ retries,
    link.Reaches oid env count ∧ (count < retries → ¬ link.LeadsOn oid (link.beginning oid env count)) := by
  induction retries with
  | zero => exact ⟨0, le_rfl, fun _ hlt => absurd hlt (Nat.not_lt_zero _), fun hlt => absurd hlt (lt_irrefl 0)⟩
  | succ retries ih =>
      obtain ⟨count, hcount, hreaches, hlast⟩ := ih
      by_cases hleads : link.LeadsOn oid (link.beginning oid env count)
      · have hequal : count = retries := by
          by_contra hne
          exact hlast (lt_of_le_of_ne hcount hne) hleads
        subst hequal
        refine ⟨count + 1, le_rfl, fun earlier hlt => ?_, fun hlt => absurd hlt (lt_irrefl _)⟩
        rcases Nat.lt_succ_iff_lt_or_eq.1 hlt with hlt | rfl
        · exact hreaches earlier hlt
        · exact hleads
      · exact ⟨count, Nat.le_succ_of_le hcount, hreaches, fun _ => hleads⟩

theorem exists_ending (session : Session) (link : Link ε) (oid : Oid) (env : ε) :
    ∃ made answer after, session.Ending link oid env made answer after := by
  obtain ⟨count, hcount, hreaches, hlast⟩ := exists_last link oid env session.retries
  cases hcancelled : Surroundings.isCancelled (link.beginning oid env count) with
  | true => exact ⟨_, _, _, .barred hcount hreaches hcancelled⟩
  | false =>
      cases hreply : (link.attempt oid (link.beginning oid env count)).1 with
      | bindings bindings => exact ⟨_, _, _, .answered hcount hreaches hcancelled (congrArg session.outcome? hreply)⟩
      | faulty reason => exact ⟨_, _, _, .answered hcount hreaches hcancelled (congrArg session.outcome? hreply)⟩
      | interrupted => exact ⟨_, _, _, .interrupted hcount hreaches hcancelled hreply⟩
      | silence =>
          rcases Nat.eq_or_lt_of_le hcount with rfl | hlt
          · exact ⟨_, _, _, .exhausted hreaches ⟨hcancelled, hreply⟩⟩
          · refine ⟨_, _, _, .abandoned hlt hreaches ⟨hcancelled, hreply⟩ ?_⟩
            by_contra hpauses
            exact hlast hlt ⟨⟨hcancelled, hreply⟩, eq_false_of_ne_true hpauses⟩

theorem Ending.unique {otherMade : Nat} {other : Except PollError (Option MetricValue)} {later : ε}
    (hending : session.Ending link oid env made answer after)
    (hother : session.Ending link oid env otherMade other later) : made = otherMade ∧ answer = other := by
  have hsame := hending.get_eq.symm.trans hother.get_eq
  simp only [Prod.mk.injEq, Sent.mk.injEq] at hsame
  refine ⟨?_, hsame.1⟩
  have hlength := congrArg List.length hsame.2.2
  rwa [List.length_replicate, List.length_replicate] at hlength

/-! ### Without the record, and with a count -/

theorem exists_exchange_recorded (link : Link ε) (request : Request) (env : ε) (requests : List Request) : ∃ more,
    link.recorded.exchange request ⟨env, requests⟩
      = ((link.exchange request env).1, ⟨(link.exchange request env).2, more⟩) := by
  cases hcancelled : Surroundings.isCancelled env with
  | true =>
      refine ⟨requests, ?_⟩
      rw [Link.exchange, Link.exchange, if_pos hcancelled]
      exact if_pos hcancelled
  | false =>
      refine ⟨requests ++ [request], ?_⟩
      rw [Link.exchange, Link.exchange, if_neg (ne_true_of_eq_false hcancelled)]
      exact if_neg (ne_true_of_eq_false hcancelled)

theorem getWith_recorded (session : Session) (link : Link ε) (oid : Oid) (retries : Nat) (env : ε)
    (requests : List Request) :
    session.getWith link oid retries env
      = ((session.getWith link.recorded oid retries ⟨env, requests⟩).1,
          (session.getWith link.recorded oid retries ⟨env, requests⟩).2.scene) := by
  induction retries generalizing env requests with
  | zero =>
      obtain ⟨more, hexchange⟩ := exists_exchange_recorded link (.get oid) env requests
      rw [getWith, getWith, hexchange]
      generalize link.exchange (.get oid) env = done
      obtain ⟨reply, later⟩ := done
      cases reply <;> rfl
  | succ retries ih =>
      obtain ⟨more, hexchange⟩ := exists_exchange_recorded link (.get oid) env requests
      rw [getWith, getWith, hexchange]
      generalize link.exchange (.get oid) env = done
      obtain ⟨reply, later⟩ := done
      cases reply with
      | bindings | faulty | interrupted => rfl
      | silence =>
          have hpause : link.recorded.pause ⟨later, more⟩ = ⟨link.pause later, more⟩ := rfl
          simp only [hpause, Sent.isCancelled_eq]
          split
          · rfl
          · split
            · rfl
            · exact ih _ _

theorem getCounted_eq {attempt : Nat} (hfits : session.retries < Text.limit32)
    (hretries : attempt + retries = session.retries) :
    session.getCounted link oid attempt env = some (session.getWith link oid retries env) := by
  induction retries generalizing attempt env with
  | zero =>
      rw [getCounted, getWith]
      generalize link.exchange (.get oid) env = done
      obtain ⟨reply, later⟩ := done
      cases reply with
      | bindings | faulty | interrupted => rfl
      | silence => exact if_neg (by omega)
  | succ retries ih =>
      rw [getCounted, getWith]
      generalize link.exchange (.get oid) env = done
      obtain ⟨reply, later⟩ := done
      cases reply with
      | bindings | faulty | interrupted => rfl
      | silence =>
          dsimp only
          rw [if_pos (by omega), if_pos (by omega)]
          split
          · rfl
          · split
            · rfl
            · exact ih (by omega)

/-! ### What a request does -/

/-- The first outcome among the attempts up to a number, if all before it time out. -/
def firstOutcome? (session : Session) (link : Link ε) (oid : Oid) (env : ε) (retries : Nat) :
    Option (Except PollError (Option MetricValue)) :=
  (List.range (retries + 1)).findSome? fun count =>
    session.outcome? (link.attempt oid (link.beginning oid env count)).1

/-- What the attempts of a request have to do with its answer. -/
structure IsRetried (session : Session) (link : Link ε) (oid : Oid) (env : ε) (made : Nat)
    (answer : Except PollError (Option MetricValue)) : Prop where
  made_le : made ≤ session.retries + 1
  undisturbed : (∀ count ≤ session.retries, link.Reaches oid env count →
      ¬ link.IsCalledOff oid (link.beginning oid env count)) →
    answer = (session.firstOutcome? link oid env session.retries).getD (.error (session.timeout "snmp get"))
  answered : ∀ count ≤ session.retries, link.Reaches oid env count →
    Surroundings.isCancelled (link.beginning oid env count) = false →
    ∀ outcome, session.outcome? (link.attempt oid (link.beginning oid env count)).1 = some outcome →
      made = count + 1 ∧ answer = outcome
  exhausted : link.Reaches oid env session.retries →
    link.TimesOut oid (link.beginning oid env session.retries) →
      made = session.retries + 1 ∧ answer = .error (session.timeout "snmp get")
  timeout : answer = .error (session.timeout "snmp get") →
    ∀ count ≤ session.retries, link.TimesOut oid (link.beginning oid env count)
  barred : ∀ count ≤ session.retries, link.Reaches oid env count →
    Surroundings.isCancelled (link.beginning oid env count) = true →
      made = count ∧ answer = .error .cancelled
  interrupted : ∀ count ≤ session.retries, link.Reaches oid env count →
    Surroundings.isCancelled (link.beginning oid env count) = false →
    (link.attempt oid (link.beginning oid env count)).1 = .interrupted →
      made = count + 1 ∧ answer = .error .cancelled
  abandoned : ∀ count < session.retries, link.Reaches oid env count →
    link.TimesOut oid (link.beginning oid env count) →
    Surroundings.isCancelled (link.attempt oid (link.beginning oid env count)).2 = true →
      made = count + 1 ∧ answer = .error .cancelled
  cancelled : answer = .error .cancelled → ∃ count ≤ session.retries, link.Reaches oid env count
    ∧ link.IsCalledOff oid (link.beginning oid env count)

theorem outcome?_ne_timeout {reply : Reply} (operation : String) :
    session.outcome? reply ≠ some (.error (session.timeout operation)) := by
  cases reply <;> simp [outcome?, Session.timeout]

theorem outcome?_ne_cancelled {reply : Reply} : session.outcome? reply ≠ some (.error .cancelled) := by
  cases reply <;> simp [outcome?]

theorem outcome?_of_timesOut (htimesOut : link.TimesOut oid env) :
    session.outcome? (link.attempt oid env).1 = none := by
  rw [htimesOut.silent, outcome?]

/-- Attempts that time out do not count, so the first outcome after them is the first of all. -/
theorem firstOutcome?_of_reaches {count : Nat} (hcount : count ≤ retries) (hreaches : link.Reaches oid env count)
    (houtcome : session.outcome? (link.attempt oid (link.beginning oid env count)).1 = some answer) :
    session.firstOutcome? link oid env retries = some answer := by
  have hnone : (List.range count).findSome? (fun earlier =>
      session.outcome? (link.attempt oid (link.beginning oid env earlier)).1) = none := by
    refine List.findSome?_eq_none_iff.2 fun earlier hmem => ?_
    exact outcome?_of_timesOut (hreaches earlier (List.mem_range.1 hmem)).toTimesOut
  obtain ⟨left, rfl⟩ := Nat.exists_eq_add_of_le hcount
  rw [firstOutcome?, Nat.add_assoc, List.range_add, List.findSome?_append, hnone, Option.none_or,
    List.range_succ_eq_map, List.map_cons, List.findSome?_cons, Nat.add_zero, houtcome]

theorem firstOutcome?_of_exhausted (hreaches : link.Reaches oid env retries)
    (htimesOut : link.TimesOut oid (link.beginning oid env retries)) :
    session.firstOutcome? link oid env retries = none := by
  refine List.findSome?_eq_none_iff.2 fun count hmem => outcome?_of_timesOut ?_
  rcases Nat.lt_succ_iff_lt_or_eq.1 (List.mem_range.1 hmem) with hlt | rfl
  · exact (hreaches count hlt).toTimesOut
  · exact htimesOut

theorem Ending.isRetried (hending : session.Ending link oid env made answer after) :
    session.IsRetried link oid env made answer where
  made_le := by
    cases hending <;> omega
  undisturbed hcalm := by
    cases hending with
    | barred hcount hreaches hcancelled => exact absurd (.inl hcancelled) (hcalm _ hcount hreaches)
    | interrupted hcount hreaches _ hreply => exact absurd (.inr (.inl hreply)) (hcalm _ hcount hreaches)
    | abandoned hcount hreaches _ hcancelled =>
        exact absurd (.inr (.inr hcancelled)) (hcalm _ (Nat.le_of_lt hcount) hreaches)
    | answered hcount hreaches _ houtcome => rw [firstOutcome?_of_reaches hcount hreaches houtcome]; rfl
    | exhausted hreaches htimesOut => rw [firstOutcome?_of_exhausted hreaches htimesOut]; rfl
  answered _ hcount hreaches hbegins _ houtcome := hending.unique (.answered hcount hreaches hbegins houtcome)
  exhausted hreaches htimesOut := hending.unique (.exhausted hreaches htimesOut)
  timeout htimeout := by
    cases hending with
    | barred | interrupted | abandoned => simp [Session.timeout] at htimeout
    | answered _ _ _ houtcome => exact absurd (htimeout ▸ houtcome) (outcome?_ne_timeout _)
    | exhausted hreaches htimesOut =>
        intro count hcount
        rcases Nat.eq_or_lt_of_le hcount with rfl | hlt
        · exact htimesOut
        · exact (hreaches count hlt).toTimesOut
  barred _ hcount hreaches hcancelled := hending.unique (.barred hcount hreaches hcancelled)
  interrupted _ hcount hreaches hbegins hreply := hending.unique (.interrupted hcount hreaches hbegins hreply)
  abandoned _ hcount hreaches htimesOut hcancelled :=
    hending.unique (.abandoned hcount hreaches htimesOut hcancelled)
  cancelled hanswer := by
    cases hending with
    | barred hcount hreaches hcancelled => exact ⟨_, hcount, hreaches, .inl hcancelled⟩
    | interrupted hcount hreaches _ hreply => exact ⟨_, hcount, hreaches, .inr (.inl hreply)⟩
    | abandoned hcount hreaches _ hcancelled =>
        exact ⟨_, Nat.le_of_lt hcount, hreaches, .inr (.inr hcancelled)⟩
    | answered _ _ _ houtcome => exact absurd (hanswer ▸ houtcome) outcome?_ne_cancelled
    | exhausted => simp [Session.timeout] at hanswer

/-- A request makes at most one attempt more than it has repetitions, and its answer is what the first attempt brings that does not time out; called off, it makes no attempt more. Its attempts can be counted in a word as wide as the number of repetitions. -/
theorem get_repeats_after_silence (session : Session) (link : Link ε) (oid : Oid) (env : ε) : ∃ made answer after,
    session.get link.recorded oid ⟨env, []⟩ = (answer, ⟨after, List.replicate made (.get oid)⟩)
    ∧ session.get link oid env = (answer, after)
    ∧ session.IsRetried link oid env made answer
    ∧ (session.retries < Text.limit32 → session.getCounted link oid 0 env = some (answer, after)) := by
  obtain ⟨made, answer, after, hending⟩ := exists_ending session link oid env
  have hget : session.get link oid env = (answer, after) := by
    have hrecorded := hending.get_eq
    rw [get] at hrecorded
    rw [get, getWith_recorded session link oid session.retries env [], hrecorded]
  refine ⟨made, answer, after, hending.get_eq, hget, hending.isRetried, fun hfits => ?_⟩
  rw [getCounted_eq hfits (Nat.zero_add _), ← get, hget]

def patient : Session := ⟨"192.0.2.1:161", true, 150, 2⟩

def patientScene (fault : Fault) : AgentScene := ⟨false, false, ⟨1000, 0⟩, [fault], []⟩

def patientAgent : Agent := ⟨[⟨[1, 3, 6, 1], .timeTicks 123⟩], [], false⟩

/-- The last repetition still counts when two requests are lost, and none is made when the poll is called off in the first pause. -/
theorem get_repeats_after_silence_patient :
    (∃ after, patient.get patientAgent.link.recorded [1, 3, 6, 1] ⟨patientScene ⟨[1, 3, 6, 1], .drop, some 2⟩, []⟩
        = (.ok (some (.integer 123)), ⟨after, List.replicate 3 (.get [1, 3, 6, 1])⟩))
    ∧ ∃ after, patient.get patientAgent.link.recorded [1, 3, 6, 1]
        ⟨patientScene ⟨[1, 3, 6, 1], .cancelLater, none⟩, []⟩
      = (.error .cancelled, ⟨after, List.replicate 1 (.get [1, 3, 6, 1])⟩) := by
  constructor
  · have hreaches : patientAgent.link.Reaches [1, 3, 6, 1] (patientScene ⟨[1, 3, 6, 1], .drop, some 2⟩) 2 := by
      intro earlier hlt
      obtain rfl | rfl : earlier = 0 ∨ earlier = 1 := by omega
      · exact ⟨⟨rfl, rfl⟩, rfl⟩
      · exact ⟨⟨rfl, rfl⟩, rfl⟩
    obtain ⟨made, answer, after, hget, -, hretried, -⟩ := get_repeats_after_silence patient patientAgent.link
      [1, 3, 6, 1] (patientScene ⟨[1, 3, 6, 1], .drop, some 2⟩)
    obtain ⟨rfl, rfl⟩ := hretried.answered 2 le_rfl hreaches rfl _ rfl
    exact ⟨after, hget⟩
  · have hreaches : patientAgent.link.Reaches [1, 3, 6, 1] (patientScene ⟨[1, 3, 6, 1], .cancelLater, none⟩) 1 := by
      intro earlier hlt
      obtain rfl : earlier = 0 := by omega
      exact ⟨⟨rfl, rfl⟩, rfl⟩
    obtain ⟨made, answer, after, hget, -, hretried, -⟩ := get_repeats_after_silence patient patientAgent.link
      [1, 3, 6, 1] (patientScene ⟨[1, 3, 6, 1], .cancelLater, none⟩)
    obtain ⟨rfl, rfl⟩ := hretried.barred 1 (by decide) hreaches rfl
    exact ⟨after, hget⟩

end Session

end

end Snmp

end RouterPoll
