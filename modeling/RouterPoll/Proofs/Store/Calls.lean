import Mathlib.Data.List.Induction
import RouterPoll.Store.Contract

/-!
# Calls

What a store is told, call by call, and what it answers. Two stores that are told the same stay related, and answer alike, if every single call sees to it.
-/

namespace RouterPoll

/-- The answers to some calls, one after the other, and the store after all of them. -/
def runAll {σ α β : Type} (run : σ → α → β × σ) (store : σ) : List α → List β × σ
  | [] => ([], store)
  | call :: rest =>
    let (answer, next) := run store call
    let (answers, last) := runAll run next rest
    (answer :: answers, last)

/-- The answers to some calls, where each may depend on the calls before it. -/
def answersTo {α β : Type} (answer : List α → α → β) (earlier : List α) : List α → List β
  | [] => []
  | call :: rest => answer earlier call :: answersTo answer (earlier ++ [call]) rest

theorem answersTo_eq_map {α β : Type} (answer : α → β) (earlier calls : List α) :
    answersTo (fun _ call => answer call) earlier calls = calls.map answer := by
  induction calls generalizing earlier with
  | nil => rfl
  | cons call rest ih => exact congrArg (answer call :: ·) (ih _)

theorem mem_of_front {α : Type} {front calls : List α} {call : α} (hfront : front ++ [call] <+: calls) :
    call ∈ calls :=
  hfront.subset (List.mem_append_right _ (List.mem_singleton.2 rfl))

/-- A relation between two stores, which may depend on the calls so far, is kept through all calls if each one keeps it; and if both stores then answer in a given way, so do they throughout. -/
theorem runAll_related {σ τ α β : Type} {run : σ → α → β × σ} {otherRun : τ → α → β × τ}
    {answer : List α → α → β} (related : List α → σ → τ → Prop) {calls : List α}
    (hstep : ∀ {front : List α} {call : α} {store : σ} {other : τ}, front ++ [call] <+: calls →
      related front store other →
      (run store call).1 = answer front call ∧ (otherRun other call).1 = answer front call
        ∧ related (front ++ [call]) (run store call).2 (otherRun other call).2)
    {store : σ} {other : τ} (hstart : related [] store other) :
    (runAll run store calls).1 = answersTo answer [] calls
      ∧ (runAll otherRun other calls).1 = answersTo answer [] calls
      ∧ related calls (runAll run store calls).2 (runAll otherRun other calls).2 := by
  suffices hrest : ∀ {rest front : List α} {store : σ} {other : τ}, front ++ rest = calls →
      related front store other →
      (runAll run store rest).1 = answersTo answer front rest
        ∧ (runAll otherRun other rest).1 = answersTo answer front rest
        ∧ related calls (runAll run store rest).2 (runAll otherRun other rest).2 from
    hrest rfl hstart
  intro rest
  induction rest with
  | nil =>
      intro front store other hcalls hrelated
      rw [List.append_nil] at hcalls
      exact ⟨rfl, rfl, hcalls ▸ hrelated⟩
  | cons call rest ih =>
      intro front store other hcalls hrelated
      rw [List.append_cons] at hcalls
      obtain ⟨hanswer, hother, hnext⟩ := hstep ⟨rest, hcalls⟩ hrelated
      obtain ⟨hanswers, hothers, hlast⟩ := ih hcalls hnext
      exact ⟨List.cons_eq_cons.2 ⟨hanswer, hanswers⟩, List.cons_eq_cons.2 ⟨hother, hothers⟩, hlast⟩

/-! ### Calls about devices -/

inductive DeviceCall where
  | upsert (device : Device)
  | markPolled (id : Uuid) (polledAt : Instant)
  | recordFailure (id : Uuid)

namespace DeviceCall

/-- The answer to a call, which is a count for a failure, and the store after it. -/
def run {σ : Type} [Store σ] (store : σ) : DeviceCall → Except StorageError (Option Nat) × σ
  | upsert device =>
    match Store.upsertDevice store device with
    | .ok next => (.ok none, next)
    | .error error => (.error error, store)
  | markPolled id polledAt =>
    match Store.markPolled store id polledAt with
    | .ok next => (.ok none, next)
    | .error error => (.error error, store)
  | recordFailure id =>
    let (answer, next) := Store.recordFailure store id
    (answer.map some, next)

/-- How many failures in a row a device has had after a call, if it is known. -/
def countFor (id : Uuid) (failures : Option Nat) : DeviceCall → Option Nat
  | upsert device => if device.id = id then some (failures.getD 0) else failures
  | markPolled other _ => if other = id then failures.map fun _ => 0 else failures
  | recordFailure other => if other = id then failures.map (· + 1) else failures

/-- How many failures in a row a device has had after all calls, if it is known. -/
def streak (id : Uuid) (calls : List DeviceCall) : Option Nat := calls.foldl (countFor id) none

theorem streak_append (id : Uuid) (calls : List DeviceCall) (call : DeviceCall) :
    streak id (calls ++ [call]) = countFor id (streak id calls) call := by
  rw [streak, List.foldl_append]
  rfl

/-- The answer to a call after some others: a device is known once it was put in, and a failure is answered by how many there were in a row. -/
def answer (earlier : List DeviceCall) : DeviceCall → Except StorageError (Option Nat)
  | upsert _ => .ok none
  | markPolled id _ =>
    match streak id earlier with
    | some _ => .ok none
    | none => .error (.deviceNotFound id)
  | recordFailure id =>
    match streak id earlier with
    | some failures => .ok (some (failures + 1))
    | none => .error (.deviceNotFound id)

theorem le_length_of_mem_streak {id : Uuid} {calls : List DeviceCall} {count : Nat}
    (hcount : count ∈ streak id calls) : count ≤ calls.length := by
  induction calls using List.reverseRecOn generalizing count with
  | nil => cases hcount
  | append_singleton calls call ih =>
      have hold {failures : Nat} (hmem : failures ∈ streak id calls) :
          failures + 1 ≤ (calls ++ [call]).length := by
        rw [List.length_append, List.length_singleton]
        exact Nat.succ_le_succ (ih hmem)
      rw [streak_append] at hcount
      cases call with
      | upsert device =>
          rw [countFor] at hcount
          split at hcount
          · cases hstreak : streak id calls with
            | none =>
                rw [hstreak] at hcount
                cases hcount
                exact Nat.zero_le _
            | some failures =>
                rw [hstreak] at hcount
                cases hcount
                exact Nat.le_of_succ_le (hold hstreak)
          · exact Nat.le_of_succ_le (hold hcount)
      | markPolled other polledAt =>
          rw [countFor] at hcount
          split at hcount
          · obtain ⟨failures, _, rfl⟩ := Option.map_eq_some_iff.1 hcount
            exact Nat.zero_le _
          · exact Nat.le_of_succ_le (hold hcount)
      | recordFailure other =>
          rw [countFor] at hcount
          split at hcount
          · obtain ⟨failures, hfailures, rfl⟩ := Option.map_eq_some_iff.1 hcount
            exact hold hfailures
          · exact Nat.le_of_succ_le (hold hcount)

end DeviceCall

/-! ### Calls about sessions -/

/-- A batch of sessions that a store is told of, and what the clock shows then. -/
structure SessionCall where
  now : Instant
  tenantId : Uuid
  deviceId : Uuid
  batch : SessionBatch

namespace SessionCall

/-- The answer to a call, which is the size of the batch, and the store after it. -/
def run {σ : Type} [Store σ] (store : σ) (call : SessionCall) : Except StorageError Nat × σ :=
  match Store.upsertSessions store call.now call.tenantId call.deviceId call.batch with
  | .ok (count, next) => (.ok count, next)
  | .error error => (.error error, store)

def replaces (call : SessionCall) (id : Uuid) (kind : SessionKind) : Bool :=
  call.deviceId == id && call.batch.kind == kind && !call.batch.isEmpty

def lastBatch? (id : Uuid) (kind : SessionKind) (calls : List SessionCall) : Option SessionBatch :=
  (calls.filter (·.replaces id kind)).getLast?.map (·.batch)

theorem lastBatch?_append (id : Uuid) (kind : SessionKind) (calls : List SessionCall)
    (call : SessionCall) : lastBatch? id kind (calls ++ [call])
      = if call.replaces id kind then some call.batch else lastBatch? id kind calls := by
  cases hreplaces : call.replaces id kind <;> simp [lastBatch?, hreplaces]

theorem kind_of_replaces {call : SessionCall} {id : Uuid} {kind : SessionKind}
    (hreplaces : call.replaces id kind = true) : call.batch.kind = kind := by
  rw [replaces, Bool.and_eq_true, Bool.and_eq_true] at hreplaces
  exact beq_iff_eq.1 hreplaces.1.2

theorem exists_of_mem_lastBatch? {id : Uuid} {kind : SessionKind} {calls : List SessionCall}
    {batch : SessionBatch} (hbatch : batch ∈ lastBatch? id kind calls) :
    ∃ call ∈ calls, call.replaces id kind = true ∧ call.batch = batch := by
  obtain ⟨call, hcall, hsame⟩ := Option.map_eq_some_iff.1 hbatch
  obtain ⟨hmem, hreplaces⟩ := List.mem_filter.1 (List.mem_of_getLast? hcall)
  exact ⟨call, hmem, hreplaces, hsame⟩

end SessionCall

end RouterPoll
