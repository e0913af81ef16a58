import RouterPoll.Adapter.Registry
import RouterPoll.Proofs.Pipeline.Run

/-!
# Polls through a registry

A registry selects candidates among its own adapters, and a result that it gives was given by one of them. So if every adapter answers about the device it was asked for, so does the registry, and a run that polls through it is faithful.
-/

namespace RouterPoll

def Attempt.IsAbout (device : Device) : Attempt → Prop
  | answered result => result.deviceId = device.id
  | refused failure => failure.result.deviceId = device.id
  | _ => True

namespace Registry

variable {ε : Type} {registry : Registry ε} {device : Device}

/-! ### Candidates are registered -/

theorem subset_of_capable {adapters candidates : List (Adapter ε)}
    (hcapable : capable device adapters = some candidates) : candidates ⊆ adapters := by
  induction adapters generalizing candidates with
  | nil =>
      cases hcapable
      exact List.Subset.refl _
  | cons adapter rest ih =>
      simp only [capable, Option.bind_eq_bind, Option.bind_eq_some_iff] at hcapable
      obtain ⟨handles, _, others, hothers, hsome⟩ := hcapable
      cases hsome
      cases handles with
      | true => exact List.cons_subset_cons _ (ih hothers)
      | false => exact List.subset_cons_of_subset _ (ih hothers)

theorem subset_of_selectEntry {entry : String} {adapters selected candidates : List (Adapter ε)}
    (hselect : selectEntry device entry adapters selected = some candidates) :
    candidates ⊆ selected ++ adapters := by
  induction adapters generalizing selected with
  | nil =>
      cases hselect
      exact List.subset_append_left _ _
  | cons adapter rest ih =>
      have hwiden : selected ++ rest ⊆ selected ++ adapter :: rest := by
        intro candidate hmem
        rcases List.mem_append.1 hmem with hold | hnew
        · exact List.mem_append_left _ hold
        · exact List.mem_append_right _ (List.mem_cons_of_mem _ hnew)
      rw [selectEntry] at hselect
      split at hselect
      · simp only [Option.bind_eq_bind, Option.bind_eq_some_iff] at hselect
        obtain ⟨handles, _, hrest⟩ := hselect
        have hsubset := ih hrest
        cases handles with
        | true =>
            rw [if_pos rfl, List.append_assoc] at hsubset
            exact hsubset
        | false => exact List.Subset.trans hsubset hwiden
      · exact List.Subset.trans (ih hselect) hwiden

theorem subset_of_selectEntries {entries : List String} {selected candidates : List (Adapter ε)}
    (hselect : registry.selectEntries device entries selected = some candidates)
    (hselected : selected ⊆ registry.adapters) : candidates ⊆ registry.adapters := by
  induction entries generalizing selected with
  | nil =>
      cases hselect
      exact hselected
  | cons entry rest ih =>
      simp only [selectEntries, Option.bind_eq_bind, Option.bind_eq_some_iff] at hselect
      obtain ⟨next, hnext, hrest⟩ := hselect
      refine ih hrest ?_
      intro candidate hmem
      rcases List.mem_append.1 (subset_of_selectEntry hnext hmem) with hold | hnew
      · exact hselected hold
      · exact hnew

theorem subset_of_selectOrdered {candidates : List (Adapter ε)}
    (hselect : registry.selectOrdered device = some candidates) : candidates ⊆ registry.adapters := by
  simp only [selectOrdered, Option.bind_eq_bind, Option.bind_eq_some_iff] at hselect
  obtain ⟨selected, hselected, hchoice⟩ := hselect
  split at hchoice
  · exact subset_of_capable hchoice
  · cases hchoice
    exact subset_of_selectEntries hselected (List.nil_subset _)

/-! ### Results are those of candidates -/

theorem deviceId_of_verdict? {attempt : Attempt} {result : PollResult}
    (habout : attempt.IsAbout device) (hverdict : verdict? attempt = some (.succeeded result)) :
    result.deviceId = device.id := by
  have hjudge {given : PollResult} (hgiven : judge given = .succeeded result) : given = result := by
    unfold judge at hgiven
    split at hgiven
    · cases hgiven
      rfl
    · cases hgiven
  cases attempt with
  | answered given =>
      rw [← hjudge (Option.some.inj hverdict)]
      exact habout
  | refused failure =>
      rw [← hjudge (Option.some.inj hverdict)]
      exact habout
  | crashed => cases hverdict
  | stalled => cases hverdict

variable [Surroundings ε]

theorem isAbout_tryEach {candidates : List (Adapter ε)}
    (habout : ∀ adapter ∈ candidates, ∀ env, (adapter.poll device env).1.IsAbout device)
    (attempted : Nat) (lastError : String) (env : ε) :
    (tryEach device attempted candidates lastError env).1.IsAbout device := by
  induction candidates generalizing lastError env with
  | nil =>
      rw [tryEach]
      split <;> exact trivial
  | cons adapter rest ih =>
      rw [tryEach]
      split
      · exact trivial
      · have hattempt := habout adapter List.mem_cons_self env
        cases hverdict : verdict? (adapter.poll device env).1 with
        | none =>
            simp only [hverdict]
            exact trivial
        | some verdict =>
            cases verdict with
            | succeeded result =>
                simp only [hverdict]
                exact deviceId_of_verdict? hattempt hverdict
            | failed message =>
                simp only [hverdict]
                exact ih (fun other hmem => habout other (List.mem_cons_of_mem _ hmem)) _ _

theorem isAbout_of_selectOrdered {candidates : List (Adapter ε)}
    (hselect : registry.selectOrdered device = some candidates)
    (habout : ∀ adapter ∈ candidates, ∀ env, (adapter.poll device env).1.IsAbout device) (env : ε) :
    (registry.pollWithFallback device env).1.IsAbout device := by
  unfold pollWithFallback
  rw [hselect]
  cases candidates with
  | nil => exact trivial
  | cons adapter rest => exact isAbout_tryEach habout _ _ _

/-- A poll through a registry is about its device, if every adapter keeps to the device it is given. -/
theorem isAbout_pollWithFallback
    (habout : ∀ adapter ∈ registry.adapters, ∀ env, (adapter.poll device env).1.IsAbout device)
    (env : ε) : (registry.pollWithFallback device env).1.IsAbout device := by
  cases hselect : registry.selectOrdered device with
  | none =>
      unfold pollWithFallback
      rw [hselect]
      exact trivial
  | some candidates =>
      exact isAbout_of_selectOrdered hselect
        (fun adapter hmem => habout adapter (subset_of_selectOrdered hselect hmem)) env

end Registry

end RouterPoll
