/-!
# Computations that may refuse

A value comes out of a computation in steps only if it comes out of each of them, and out of a list of readings only if every one of them succeeds.
-/

namespace RouterPoll

theorem bind_eq_ok {ε α β : Type} {first : Except ε α} {next : α → Except ε β} {value : β} :
    first >>= next = .ok value ↔ ∃ middle, first = .ok middle ∧ next middle = .ok value := by
  constructor
  · intro hnext
    cases first with
    | error error => cases hnext
    | ok middle => exact ⟨middle, rfl, hnext⟩
  · rintro ⟨middle, rfl, hnext⟩
    exact hnext

theorem map_eq_ok {ε α β : Type} {first : Except ε α} {apply : α → β} {value : β} :
    first.map apply = .ok value ↔ ∃ middle, first = .ok middle ∧ apply middle = value := by
  constructor
  · intro hmap
    cases first with
    | error error => cases hmap
    | ok middle =>
        cases hmap
        exact ⟨middle, rfl, rfl⟩
  · rintro ⟨middle, rfl, rfl⟩
    rfl

theorem exists_mapM_ok {ε α β : Type} {read : α → Except ε β} {items : List α}
    (hread : ∀ item ∈ items, ∃ value, read item = .ok value) :
    ∃ values, items.mapM read = .ok values := by
  induction items with
  | nil => exact ⟨[], rfl⟩
  | cons item items ih =>
      obtain ⟨first, hfirst⟩ := hread item List.mem_cons_self
      obtain ⟨rest, hrest⟩ := ih fun other hmem => hread other (List.mem_cons_of_mem _ hmem)
      refine ⟨first :: rest, ?_⟩
      rw [List.mapM_cons, hfirst, hrest]
      rfl

theorem mapM_map_eq_ok {ε α β γ : Type} {write : β → α} {read : α → Except ε γ} {back : β → γ} {items : List β}
    (hread : ∀ item ∈ items, read (write item) = .ok (back item)) :
    (items.map write).mapM read = .ok (items.map back) := by
  induction items with
  | nil => rfl
  | cons item items ih =>
      rw [List.map_cons, List.mapM_cons, hread item List.mem_cons_self,
        ih fun other hmem => hread other (List.mem_cons_of_mem _ hmem)]
      rfl

theorem mapM_map_ok {ε α β : Type} {write : β → α} {read : α → Except ε β} {items : List β}
    (hread : ∀ item ∈ items, read (write item) = .ok item) : (items.map write).mapM read = .ok items := by
  rw [mapM_map_eq_ok hread, List.map_id']

/-- Where places play no part, items are read as they are. -/
theorem mapM_zipIdx {ε α β : Type} {read : α × Nat → Except ε β} {alone : α → Except ε β} {items : List α}
    (hread : ∀ item ∈ items, ∀ place, read (item, place) = alone item) (first : Nat) :
    (items.zipIdx first).mapM read = items.mapM alone := by
  induction items generalizing first with
  | nil => rfl
  | cons item items ih =>
      rw [List.zipIdx_cons, List.mapM_cons, List.mapM_cons, hread item List.mem_cons_self,
        ih fun other hmem => hread other (List.mem_cons_of_mem _ hmem)]

theorem mem_of_mapM_ok {ε α β : Type} {read : α → Except ε β} {items : List α} {values : List β}
    (hread : items.mapM read = .ok values) {value : β} (hmem : value ∈ values) :
    ∃ item ∈ items, read item = .ok value := by
  induction items generalizing values with
  | nil =>
      cases hread
      cases hmem
  | cons item items ih =>
      rw [List.mapM_cons] at hread
      obtain ⟨first, hfirst, hothers⟩ := bind_eq_ok.1 hread
      obtain ⟨rest, hrest, hvalues⟩ := bind_eq_ok.1 hothers
      cases hvalues
      rcases List.mem_cons.1 hmem with rfl | hmem
      · exact ⟨item, List.mem_cons_self, hfirst⟩
      · obtain ⟨other, hother, hvalue⟩ := ih hrest hmem
        exact ⟨other, List.mem_cons_of_mem _ hother, hvalue⟩

theorem map_eq_of_mapM_ok {ε α β γ : Type} {read : α → Except ε β} {before : α → γ} {after : β → γ}
    {items : List α} {values : List β} (hread : items.mapM read = .ok values)
    (hsame : ∀ item ∈ items, ∀ value, read item = .ok value → after value = before item) :
    values.map after = items.map before := by
  induction items generalizing values with
  | nil =>
      cases hread
      rfl
  | cons item items ih =>
      rw [List.mapM_cons] at hread
      obtain ⟨first, hfirst, hothers⟩ := bind_eq_ok.1 hread
      obtain ⟨rest, hrest, hvalues⟩ := bind_eq_ok.1 hothers
      cases hvalues
      rw [List.map_cons, List.map_cons, hsame item List.mem_cons_self first hfirst,
        ih hrest fun other hmem => hsame other (List.mem_cons_of_mem _ hmem)]

end RouterPoll
