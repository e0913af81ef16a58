import RouterPoll.Proofs.Pipeline.Admission

/-!
# What a command is answered

The answer to a command says what it admitted: a pass how many devices, a single command whether its device, and an error that nothing was. A store that lists nothing, does not find the device or refuses to, and a queue that is full or closed leave no trace. What is loaded for a device decides nothing about its admission; where it can not be loaded the device keeps what it has. So two stores that list and find the same devices give the same answers and admit the same devices.
-/

namespace RouterPoll

/-- What is loaded for a device is what the store says, or what the device has already where the store refuses to say it. -/
theorem Device.loaded_eq {σ : Type} [Store σ] (device : Device) (store : σ) :
    device.loaded store = { device with
      capabilities := (Store.capabilities? store device.id).toOption.getD device.capabilities
      roles := ((Store.roles store device.id).toOption.map Role.byPriority).getD device.roles } := by
  unfold loaded withRoles withCapabilities
  cases Store.capabilities? store device.id with
  | error error => cases Store.roles store device.id <;> rfl
  | ok capabilities =>
      simp only
      cases Store.roles store device.id <;> rfl

/-- How a command is answered that found some devices by their ids and admitted some devices. -/
def Command.IsAnswered (found admitted : List Device) (reply : Reply) : Command → Prop
  | pass => reply = .ok (.admitted admitted.length) ∨ (∃ error, reply = .error error) ∧ admitted = []
  | single _ =>
    reply = .ok (.taken true) ∧ (∃ device ∈ found, admitted.map (·.id) = [device.id])
      ∨ (reply = .ok (.taken false) ∨ ∃ error, reply = .error error) ∧ admitted = []

namespace Command

variable {found admitted : List Device} {reply : Reply} {id : Uuid}

theorem isAnswered_of_error {error : SchedulerError} (command : Command) :
    command.IsAnswered found [] (.error error) := by
  cases command with
  | pass => exact .inr ⟨⟨error, rfl⟩, rfl⟩
  | single id => exact .inr ⟨.inr ⟨error, rfl⟩, rfl⟩

theorem IsAnswered.taken_iff (hanswered : (single id).IsAnswered found admitted reply) :
    (reply = .ok (.taken true) ↔ ∃ device ∈ found, admitted.map (·.id) = [device.id])
      ∧ ((reply = .ok (.taken false) ∨ ∃ error, reply = .error error) ↔ admitted = []) := by
  rcases hanswered with ⟨rfl, device, hfound, hadmitted⟩ | ⟨hreply, rfl⟩
  · refine ⟨iff_of_true rfl ⟨device, hfound, hadmitted⟩, iff_of_false ?_ ?_⟩
    · rintro (hreply | ⟨error, hreply⟩) <;> cases hreply
    · rintro rfl
      cases hadmitted
  · refine ⟨iff_of_false ?_ ?_, iff_of_true hreply rfl⟩
    · rintro rfl
      rcases hreply with hreply | ⟨error, hreply⟩ <;> cases hreply
    · rintro ⟨device, _, hadmitted⟩
      cases hadmitted

end Command

/-- Stores that list and find the same devices, whatever they load for them. -/
structure ListsAlike {σ τ : Type} [Store σ] [Store τ] (store : σ) (other : τ) : Prop where
  listDue : ∀ now limit,
    Store.readDue other (fun _ => now) now limit = Store.readDue store (fun _ => now) now limit
  device? : ∀ now id, Store.readDevice? other now id = Store.readDevice? store now id

namespace Admission

/-- Devices that may be admitted together: each once, and none that is in flight. -/
def IsFree (admission : Admission) (taken : List Device) : Prop :=
  (taken.map (·.id)).Nodup ∧ ∀ device ∈ taken, device.id ∉ admission.inFlight.ids

theorem isFree_nil (admission : Admission) : admission.IsFree [] := ⟨List.nodup_nil, fun _ hmem => by cases hmem⟩

theorem IsFree.of_ids {admission : Admission} {taken other : List Device} (hfree : admission.IsFree taken)
    (hids : other.map (·.id) = taken.map (·.id)) : admission.IsFree other := by
  refine ⟨by rw [hids]; exact hfree.1, fun device hmem => ?_⟩
  have hid : device.id ∈ taken.map (·.id) := hids ▸ List.mem_map_of_mem hmem
  obtain ⟨same, hsame, heq⟩ := List.mem_map.1 hid
  rw [← heq]
  exact hfree.2 same hsame

variable {σ : Type} [Store σ] (store : σ) (admission : Admission)

theorem admitting_eq_self_iff (taken : List Device) : admission.admitting store taken = admission ↔ taken = [] := by
  refine ⟨fun hsame => ?_, fun hnone => by rw [hnone, admitting_nil]⟩
  have hids := congrArg (·.inFlight.ids) hsame
  simpa [admitting] using hids

theorem pass_admits (now : Instant) (limit : Nat) : ∃ taken reply,
    Command.pass.IsAnswered [] taken reply ∧ admission.IsFree taken
      ∧ ∀ {τ : Type} [Store τ] (other : τ), ListsAlike store other →
        pass other now limit admission = (reply, admission.admitting other taken) := by
  by_cases hnone : (budget limit admission.inFlight == 0 || admission.queue.room == 0) = true
  · refine ⟨[], _, .inl rfl, admission.isFree_nil, fun other _ => ?_⟩
    simp only [pass, hnone, if_true, admitting_nil, List.length_nil]
  · rw [Bool.not_eq_true] at hnone
    cases hlisted : Store.readDue store (fun _ => now) now (budget limit admission.inFlight + admission.inFlight.size) with
    | refused error =>
        refine ⟨[], .error (.listing error), Command.isAnswered_of_error _, admission.isFree_nil, fun other halike => ?_⟩
        simp only [pass, hnone, halike.listDue, hlisted, admitting_nil]
        rfl
    | overflowed =>
        refine ⟨[], .error .crashed, Command.isAnswered_of_error _, admission.isFree_nil, fun other halike => ?_⟩
        simp only [pass, hnone, halike.listDue, hlisted, admitting_nil]
        rfl
    | listed devices =>
        refine ⟨admission.inFlight.chosen devices (min (budget limit admission.inFlight) admission.openRoom), _,
          .inl rfl, InFlight.nodup_chosen _ _ _, fun other halike => ?_⟩
        simp only [pass, hnone, halike.listDue, hlisted, visit_eq_chosen]
        rfl

theorem single_admits (now : Instant) (limit : Nat) (id : Uuid) : ∃ taken reply,
    (Command.single id).IsAnswered (Store.readDevice? store now id).toOption.join.toList taken reply
      ∧ admission.IsFree taken
      ∧ ∀ {τ : Type} [Store τ] (other : τ), ListsAlike store other →
        single other now limit id admission = (reply, admission.admitting other taken) := by
  by_cases hnone : (budget limit admission.inFlight == 0) = true
  · refine ⟨[], _, .inr ⟨.inl rfl, rfl⟩, admission.isFree_nil, fun other _ => ?_⟩
    simp only [single, hnone, if_true, admitting_nil]
  · rw [Bool.not_eq_true] at hnone
    cases hfound : Store.readDevice? store now id with
    | error error =>
        refine ⟨[], .error (.lookup error), Command.isAnswered_of_error _, admission.isFree_nil, fun other halike => ?_⟩
        simp only [single, hnone, halike.device?, hfound, admitting_nil]
        rfl
    | ok answer =>
        cases answer with
        | none =>
            refine ⟨[], .error (.unknownDevice id), Command.isAnswered_of_error _, admission.isFree_nil,
              fun other halike => ?_⟩
            simp only [single, hnone, halike.device?, hfound, admitting_nil]
            rfl
        | some device =>
            cases hclaim : admission.inFlight.claim? device.id with
            | none =>
                refine ⟨[], _, .inr ⟨.inl rfl, rfl⟩, admission.isFree_nil, fun other halike => ?_⟩
                simp only [single, hnone, halike.device?, hfound, hclaim, admitting_nil]
                rfl
            | some inFlight =>
                have hfree := (InFlight.claim?_eq_some hclaim).1
                obtain rfl := InFlight.eq_of_claim? hclaim
                rcases Nat.eq_zero_or_pos admission.openRoom with hfull | hroom
                · refine ⟨[], _, .inr ⟨.inl rfl, rfl⟩, admission.isFree_nil, fun other halike => ?_⟩
                  simp only [single, hnone, halike.device?, hfound, hclaim, send_of_full hfree hfull, admitting_nil]
                  rfl
                · refine ⟨[device], _, .inl ⟨rfl, device, ?_, rfl⟩, ⟨List.nodup_singleton _, ?_⟩,
                    fun other halike => ?_⟩
                  · exact List.mem_singleton.2 rfl
                  · intro other hmem
                    rw [List.mem_singleton.1 hmem]
                    exact hfree
                  · simp only [single, hnone, halike.device?, hfound, hclaim, send_of_room hroom]
                    rfl

end Admission

def SchedulerState.after (state : SchedulerState) : Reply → SchedulerState
  | .error .crashed => .crashed
  | _ => state

/-- What a scheduler answers is what it admits, and which devices these are does not depend on what is loaded for them. -/
theorem Scheduler.perform_admits {σ : Type} [Store σ] (scheduler : Scheduler) (store : σ) (now : Instant)
    (command : Command) : ∃ found taken reply,
      command.IsAnswered found taken reply
      ∧ (∀ device ∈ found, ∃ id, command = .single id ∧ Store.readDevice? store now id = .ok (some device))
      ∧ scheduler.admission.IsFree taken
      ∧ ∀ {τ : Type} [Store τ] (other : τ), ListsAlike store other → scheduler.perform other now command
        = (reply, { scheduler with
          state := scheduler.state.after reply, admission := scheduler.admission.admitting other taken }) := by
  have hafter (reply : Reply) : (if reply matches .error .crashed then .crashed else scheduler.state)
      = scheduler.state.after reply := by
    unfold SchedulerState.after
    split <;> rfl
  by_cases hrunning : scheduler.state = .running
  · have hgoes : ¬ (scheduler.state != .running) = true := by rw [hrunning]; decide
    cases command with
    | pass =>
        obtain ⟨taken, reply, hanswered, hfree, hpass⟩ := scheduler.admission.pass_admits store now scheduler.limit
        refine ⟨[], taken, reply, hanswered, fun device hmem => (by cases hmem), hfree, fun other halike => ?_⟩
        rw [perform, if_neg hgoes, hpass other halike]
        exact congrArg (fun state => (reply, { scheduler with
          state, admission := scheduler.admission.admitting other taken })) (hafter reply)
    | single id =>
        obtain ⟨taken, reply, hanswered, hfree, hsingle⟩ :=
          scheduler.admission.single_admits store now scheduler.limit id
        refine ⟨_, taken, reply, hanswered, fun device hmem => ⟨id, rfl, ?_⟩, hfree, fun other halike => ?_⟩
        · rw [Option.mem_toList] at hmem
          cases hfound : Store.readDevice? store now id with
          | error error =>
              rw [hfound] at hmem
              cases hmem
          | ok answer =>
              rw [hfound] at hmem
              exact congrArg Except.ok hmem
        · rw [perform, if_neg hgoes, hsingle other halike]
          exact congrArg (fun state => (reply, { scheduler with
            state, admission := scheduler.admission.admitting other taken })) (hafter reply)
  · refine ⟨[], [], .error (.unreachable command), Command.isAnswered_of_error _,
      fun device hmem => (by cases hmem), scheduler.admission.isFree_nil, fun other _ => ?_⟩
    rw [Admission.admitting_nil]
    exact if_pos (by simpa using hrunning)

end RouterPoll
