import Mathlib.Data.List.Forall2
import RouterPoll.Adapter.Registry

/-!
# Registries that are alike

A registry looks only at the name and method of an adapter, at whether it can handle the device, and at the verdict on each of its polls. So registries whose adapters agree in these select adapters at the same places, try them equally far and come to the same end, though their adapters may work in different surroundings and word their refusals differently.
-/

namespace RouterPoll

/-- What a registry asks two adapters before it polls them has the same answers. -/
structure Adapter.IsAlike {ε ε' : Type} (device : Device) (adapter : Adapter ε) (other : Adapter ε') :
    Prop where
  name : other.name = adapter.name
  method : other.method = adapter.method
  canHandle : other.canHandle device = adapter.canHandle device

theorem Adapter.IsAlike.answersTo {ε ε' : Type} {device : Device} {adapter : Adapter ε}
    {other : Adapter ε'} (halike : adapter.IsAlike device other) (entry : String) :
    other.answersTo entry = adapter.answersTo entry := by
  rw [Adapter.answersTo, Adapter.answersTo, halike.name, halike.method]

namespace Registry

variable {ε ε' : Type} {device : Device} {R : Adapter ε → Adapter ε' → Prop}
  {registry : Registry ε} {other : Registry ε'}

/-! ### Selection -/

theorem rel_bind {α β γ δ : Type} {R : α → β → Prop} {S : γ → δ → Prop} {first : Option α}
    {second : Option β} {next : α → Option γ} {next' : β → Option δ} (hrelated : Option.Rel R first second)
    (hnext : ∀ left right, R left right → Option.Rel S (next left) (next' right)) :
    Option.Rel S (first >>= next) (second >>= next') := by
  cases hrelated with
  | none => exact .none
  | some hvalues => exact hnext _ _ hvalues

theorem forall₂_capable (halike : ∀ adapter other, R adapter other → adapter.IsAlike device other)
    {adapters : List (Adapter ε)} {others : List (Adapter ε')} (hrelated : List.Forall₂ R adapters others) :
    Option.Rel (List.Forall₂ R) (capable device adapters) (capable device others) := by
  induction hrelated with
  | nil => exact .some .nil
  | @cons adapter other adapters others hfirst _ ih =>
      rw [capable, capable, (halike _ _ hfirst).canHandle]
      cases adapter.canHandle device with
      | none => exact .none
      | some handles =>
          change Option.Rel _ (capable device adapters >>= _) (capable device others >>= _)
          refine rel_bind ih fun _ _ hrest => ?_
          cases handles with
          | true => exact .some (.cons hfirst hrest)
          | false => exact .some hrest

theorem any_name_eq (halike : ∀ adapter other, R adapter other → adapter.IsAlike device other)
    {selected : List (Adapter ε)} {others : List (Adapter ε')} (hrelated : List.Forall₂ R selected others)
    (name : String) : others.any (·.name == name) = selected.any (·.name == name) := by
  induction hrelated with
  | nil => rfl
  | cons hfirst _ ih => rw [List.any_cons, List.any_cons, ih, (halike _ _ hfirst).name]

theorem forall₂_selectEntry (halike : ∀ adapter other, R adapter other → adapter.IsAlike device other)
    (entry : String) {adapters : List (Adapter ε)} {others : List (Adapter ε')}
    (hrelated : List.Forall₂ R adapters others) {selected : List (Adapter ε)}
    {selected' : List (Adapter ε')} (hselected : List.Forall₂ R selected selected') :
    Option.Rel (List.Forall₂ R) (selectEntry device entry adapters selected)
      (selectEntry device entry others selected') := by
  induction hrelated generalizing selected selected' with
  | nil => exact .some hselected
  | @cons adapter other adapters others hfirst _ ih =>
      have hsame := halike _ _ hfirst
      rw [selectEntry, selectEntry, hsame.answersTo, hsame.name, any_name_eq halike hselected,
        hsame.canHandle]
      split
      · cases adapter.canHandle device with
        | none => exact .none
        | some handles =>
            cases handles with
            | true => exact ih (List.rel_append hselected (.cons hfirst .nil))
            | false => exact ih hselected
      · exact ih hselected

theorem forall₂_selectEntries (halike : ∀ adapter other, R adapter other → adapter.IsAlike device other)
    (hrelated : List.Forall₂ R registry.adapters other.adapters) (entries : List String)
    {selected : List (Adapter ε)} {selected' : List (Adapter ε')}
    (hselected : List.Forall₂ R selected selected') :
    Option.Rel (List.Forall₂ R) (registry.selectEntries device entries selected)
      (other.selectEntries device entries selected') := by
  induction entries generalizing selected selected' with
  | nil => exact .some hselected
  | cons entry entries ih =>
      rw [selectEntries, selectEntries]
      exact rel_bind (forall₂_selectEntry halike entry hrelated hselected) fun _ _ hnext => ih hnext

theorem forall₂_selectOrdered (halike : ∀ adapter other, R adapter other → adapter.IsAlike device other)
    (hrelated : List.Forall₂ R registry.adapters other.adapters) :
    Option.Rel (List.Forall₂ R) (registry.selectOrdered device) (other.selectOrdered device) := by
  rw [selectOrdered, selectOrdered]
  refine rel_bind (forall₂_selectEntries halike hrelated device.methodOrder .nil) fun _ _ hselected => ?_
  cases hselected with
  | nil => exact forall₂_capable halike hrelated
  | cons hfirst hrest => exact .some (.cons hfirst hrest)

/-! ### Polling -/

variable [Surroundings ε] [Surroundings ε'] {E : ε → ε' → Prop} {env : ε} {env' : ε'}

theorem tryEach_of_forall₂
    (hname : ∀ adapter other, R adapter other → other.name = adapter.name)
    (hcancelled : ∀ env env', E env env' → Surroundings.isCancelled env' = Surroundings.isCancelled env)
    (hpoll : ∀ adapter other env env', R adapter other → E env env' →
      verdict? (other.poll device env').1 = verdict? (adapter.poll device env).1
        ∧ E (adapter.poll device env).2 (other.poll device env').2)
    {candidates : List (Adapter ε)} {others : List (Adapter ε')}
    (hrelated : List.Forall₂ R candidates others) (attempted : Nat) (lastError : String)
    (hscene : E env env') :
    (tryEach device attempted others lastError env').1 = (tryEach device attempted candidates lastError env).1
      ∧ E (tryEach device attempted candidates lastError env).2
        (tryEach device attempted others lastError env').2 := by
  induction hrelated generalizing lastError env env' with
  | nil =>
      rw [tryEach, tryEach, hcancelled env env' hscene]
      split
      · exact ⟨rfl, hscene⟩
      · exact ⟨rfl, hscene⟩
  | @cons adapter other candidates others hfirst _ ih =>
      rw [tryEach, tryEach, hcancelled env env' hscene]
      split
      · exact ⟨rfl, hscene⟩
      · obtain ⟨hverdict, hafter⟩ := hpoll _ _ _ _ hfirst hscene
        simp only [hverdict, hname _ _ hfirst]
        cases verdict? (adapter.poll device env).1 with
        | none => exact ⟨rfl, hafter⟩
        | some verdict =>
            cases verdict with
            | succeeded result => exact ⟨rfl, hafter⟩
            | failed message => exact ih _ hafter

/-- Registries come to the same end if their adapters are alike and the verdicts on their polls are the same, and so is whether the poll is called off. -/
theorem pollWithFallback_of_forall₂
    (halike : ∀ adapter other, R adapter other → adapter.IsAlike device other)
    (hcancelled : ∀ env env', E env env' → Surroundings.isCancelled env' = Surroundings.isCancelled env)
    (hpoll : ∀ adapter other env env', R adapter other → E env env' →
      verdict? (other.poll device env').1 = verdict? (adapter.poll device env).1
        ∧ E (adapter.poll device env).2 (other.poll device env').2)
    (hrelated : List.Forall₂ R registry.adapters other.adapters) (hscene : E env env') :
    (other.pollWithFallback device env').1 = (registry.pollWithFallback device env).1
      ∧ E (registry.pollWithFallback device env).2 (other.pollWithFallback device env').2 := by
  have hselected := forall₂_selectOrdered halike hrelated
  unfold pollWithFallback
  generalize registry.selectOrdered device = candidates at hselected ⊢
  generalize other.selectOrdered device = others at hselected ⊢
  cases hselected with
  | none => exact ⟨rfl, hscene⟩
  | some hcandidates =>
      cases hcandidates with
      | nil => exact ⟨rfl, hscene⟩
      | cons hfirst hrest =>
          have hlength := (List.Forall₂.cons hfirst hrest).length_eq
          simp only [← hlength]
          exact tryEach_of_forall₂ (fun _ _ hrelated => (halike _ _ hrelated).name) hcancelled hpoll
            (.cons hfirst hrest) _ _ hscene

end Registry

end RouterPoll
