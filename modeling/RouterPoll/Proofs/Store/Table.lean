import RouterPoll.Store.Table

/-!
# Keyed tables: what is found

Putting a row in changes what is found under its key and nothing else, and no key ever stands twice.
-/

namespace RouterPoll

section

variable {κ ρ : Type} [BEq κ] [LawfulBEq κ] {key : ρ → κ} {merge : ρ → ρ → ρ} {row : ρ}

/-- A row of a table after an upsert was there before, or is the new row or one that the new row was merged into. -/
theorem mem_upsert {rows : List ρ} {found : ρ} (hmem : found ∈ upsert key merge row rows) :
    found ∈ rows ∨ found = row ∨ ∃ old ∈ rows, key old = key row ∧ found = merge old row := by
  induction rows with
  | nil => exact .inr (.inl (List.mem_singleton.1 hmem))
  | cons old rest ih =>
      by_cases hkey : key old = key row
      · rw [upsert, if_pos (beq_iff_eq.2 hkey)] at hmem
        rcases List.mem_cons.1 hmem with hnew | hrest
        · exact .inr (.inr ⟨old, List.mem_cons_self, hkey, hnew⟩)
        · exact .inl (List.mem_cons_of_mem _ hrest)
      · rw [upsert, if_neg (mt beq_iff_eq.1 hkey)] at hmem
        rcases List.mem_cons.1 hmem with hold | hrest
        · exact .inl (hold ▸ List.mem_cons_self)
        · rcases ih hrest with hmem | hnew | ⟨other, hother, hsame⟩
          · exact .inl (List.mem_cons_of_mem _ hmem)
          · exact .inr (.inl hnew)
          · exact .inr (.inr ⟨other, List.mem_cons_of_mem _ hother, hsame⟩)

theorem map_key_upsert (hmerge : ∀ old, key old = key row → key (merge old row) = key row) (rows : List ρ) :
    (upsert key merge row rows).map key = rows.map key
      ∨ key row ∉ rows.map key ∧ (upsert key merge row rows).map key = rows.map key ++ [key row] := by
  induction rows with
  | nil => exact .inr ⟨List.not_mem_nil, rfl⟩
  | cons old rest ih =>
      by_cases hkey : key old = key row
      · left
        rw [upsert, if_pos (beq_iff_eq.2 hkey), List.map_cons, List.map_cons, hmerge old hkey, hkey]
      · rw [upsert, if_neg (mt beq_iff_eq.1 hkey), List.map_cons, List.map_cons]
        rcases ih with hsame | ⟨hnew, hadded⟩
        · exact .inl (by rw [hsame])
        · refine .inr ⟨?_, by rw [hadded, List.cons_append]⟩
          intro hmem
          rcases List.mem_cons.1 hmem with hhead | hrest
          · exact hkey hhead.symm
          · exact hnew hrest

theorem nodup_upsert (hmerge : ∀ old, key old = key row → key (merge old row) = key row) {rows : List ρ}
    (hnodup : (rows.map key).Nodup) : ((upsert key merge row rows).map key).Nodup := by
  rcases map_key_upsert hmerge rows with hsame | ⟨hnew, hadded⟩
  · rw [hsame]
    exact hnodup
  · rw [hadded, List.nodup_append]
    refine ⟨hnodup, List.nodup_cons.2 ⟨List.not_mem_nil, List.nodup_nil⟩, ?_⟩
    intro found hmem other hother hsame
    rw [List.mem_singleton.1 hother] at hsame
    exact hnew (hsame ▸ hmem)

/-- After an upsert the new row is found under its key, merged into the one that was found before, and under other keys nothing has changed. -/
theorem find?_upsert (hmerge : ∀ old, key old = key row → key (merge old row) = key row)
    (rows : List ρ) (other : κ) :
    (upsert key merge row rows).find? (key · == other) = if key row == other then
        some (((rows.find? (key · == other)).map (merge · row)).getD row)
      else rows.find? (key · == other) := by
  induction rows with
  | nil =>
      rw [upsert, List.find?_cons]
      cases key row == other <;> rfl
  | cons old rest ih =>
      by_cases hkey : key old = key row
      · rw [upsert, if_pos (beq_iff_eq.2 hkey), List.find?_cons, List.find?_cons, hmerge old hkey, hkey]
        cases key row == other <;> rfl
      · rw [upsert, if_neg (mt beq_iff_eq.1 hkey), List.find?_cons, List.find?_cons, ih]
        cases hold : key old == other with
        | true =>
            have hmiss : (key row == other) = false :=
              beq_eq_false_iff_ne.2 fun hsame => hkey ((beq_iff_eq.1 hold).trans hsame.symm)
            rw [hmiss]
            rfl
        | false => rfl

theorem find?_of_mem {rows : List ρ} (hnodup : (rows.map key).Nodup) (hmem : row ∈ rows) :
    rows.find? (key · == key row) = some row := by
  induction rows with
  | nil => cases hmem
  | cons first rest ih =>
      obtain ⟨hfresh, hrest⟩ := List.nodup_cons.1 hnodup
      rcases List.mem_cons.1 hmem with rfl | hmem
      · exact List.find?_cons_of_pos (beq_self_eq_true _)
      · have hne : key first ≠ key row := fun hsame =>
          hfresh (List.mem_map.2 ⟨row, hmem, hsame.symm⟩)
        rw [List.find?_cons, beq_eq_false_iff_ne.2 hne]
        exact ih hrest hmem

theorem key_eq_of_find? {rows : List ρ} {wanted : κ} (hfound : rows.find? (key · == wanted) = some row) :
    key row = wanted := by
  have hkey := List.find?_some hfound
  exact beq_iff_eq.1 hkey

/-- Where no key stands twice, a row that is sorted out is not found, and the others are found as before. -/
theorem find?_filter_of_nodup {rows : List ρ} (hnodup : (rows.map key).Nodup) (keep : ρ → Bool)
    (other : κ) :
    (rows.filter keep).find? (key · == other) = (rows.find? (key · == other)).filter keep := by
  induction rows with
  | nil => rfl
  | cons first rest ih =>
      obtain ⟨hfresh, hrest⟩ := List.nodup_cons.1 hnodup
      cases hfirst : key first == other with
      | true =>
          have hmiss : rest.find? (key · == other) = none := by
            rw [List.find?_eq_none]
            intro row hmem hrow
            rw [beq_iff_eq] at hfirst hrow
            exact hfresh (List.mem_map.2 ⟨row, hmem, hrow.trans hfirst.symm⟩)
          rw [List.find?_cons, hfirst, List.filter_cons]
          cases hkeep : keep first with
          | true => simp [hfirst, Option.filter, hkeep]
          | false => simp [ih hrest, hmiss, Option.filter, hkeep]
      | false =>
          rw [List.find?_cons, hfirst, List.filter_cons]
          cases keep first with
          | true => simp [hfirst, ih hrest]
          | false => exact ih hrest

theorem filter_upsert {rows : List ρ} {own : ρ → Bool} (hrow : own row = false)
    (hsame : ∀ old, key old = key row → own old = false ∧ own (merge old row) = false) :
    (upsert key merge row rows).filter own = rows.filter own := by
  induction rows with
  | nil => rw [upsert, List.filter_cons_of_neg (by rw [hrow]; exact Bool.false_ne_true)]
  | cons old rest ih =>
      by_cases hkey : key old = key row
      · obtain ⟨hold, hmerged⟩ := hsame old hkey
        rw [upsert, if_pos (beq_iff_eq.2 hkey), List.filter_cons, List.filter_cons, hold, hmerged]
        rfl
      · rw [upsert, if_neg (mt beq_iff_eq.1 hkey), List.filter_cons, List.filter_cons, ih]

theorem filter_upsert_of_own {rows : List ρ} {own : ρ → Bool} (hrow : own row = true)
    (hsame : ∀ old, key old = key row → own old = true ∧ own (merge old row) = true) :
    (upsert key merge row rows).filter own = upsert key merge row (rows.filter own) := by
  induction rows with
  | nil => rw [upsert, List.filter_cons_of_pos hrow, List.filter_nil, upsert]
  | cons old rest ih =>
      by_cases hkey : key old = key row
      · obtain ⟨hold, hmerged⟩ := hsame old hkey
        rw [upsert, if_pos (beq_iff_eq.2 hkey), List.filter_cons_of_pos hold, List.filter_cons_of_pos hmerged,
          upsert, if_pos (beq_iff_eq.2 hkey)]
      · rw [upsert, if_neg (mt beq_iff_eq.1 hkey), List.filter_cons, List.filter_cons, ih]
        split
        · rw [upsert, if_neg (mt beq_iff_eq.1 hkey)]
        · rfl

omit [LawfulBEq κ] in
/-- Rows that are changed one by one are put in as before, where their keys tell them apart as before. -/
theorem map_upsert {τ μ : Type} [BEq μ] {change : ρ → τ} {newKey : τ → μ} {newMerge : τ → τ → τ}
    (hkey : ∀ old, (newKey (change old) == newKey (change row)) = (key old == key row))
    (hmerge : ∀ old, newMerge (change old) (change row) = change (merge old row)) (rows : List ρ) :
    (upsert key merge row rows).map change = upsert newKey newMerge (change row) (rows.map change) := by
  induction rows with
  | nil => rfl
  | cons old rest ih =>
      rw [upsert, List.map_cons, upsert, hkey, hmerge, ← ih]
      split <;> rfl

/-! ### The last item that bears a key -/

def lastBearing {κ ρ : Type} [BEq κ] (key : ρ → κ) (items : List ρ) (wanted : κ) : Option ρ :=
  items.reverse.find? (key · == wanted)

omit [LawfulBEq κ] in
theorem lastBearing_cons (item : ρ) (items : List ρ) (wanted : κ) :
    lastBearing key (item :: items) wanted
      = (lastBearing key items wanted).or (if key item == wanted then some item else none) := by
  rw [lastBearing, List.reverse_cons, List.find?_append]
  congr 1
  rw [List.find?_cons]
  cases key item == wanted <;> rfl

theorem mem_of_lastBearing {items : List ρ} {wanted : κ}
    (hlast : lastBearing key items wanted = some row) : row ∈ items ∧ key row = wanted := by
  have hfound : items.reverse.find? (key · == wanted) = some row := hlast
  exact ⟨List.mem_reverse.1 (List.mem_of_find?_eq_some hfound), key_eq_of_find? hfound⟩

omit [LawfulBEq κ] in
/-- Items that are changed one by one have the changed last item, where their keys tell them apart as before. -/
theorem lastBearing_map {τ μ : Type} [BEq μ] {change : τ → ρ} {oldKey : τ → μ} {items : List τ} {wanted : κ}
    {oldWanted : μ} (hkey : ∀ item ∈ items, (key (change item) == wanted) = (oldKey item == oldWanted)) :
    lastBearing key (items.map change) wanted = (lastBearing oldKey items oldWanted).map change := by
  induction items with
  | nil => rfl
  | cons item items ih =>
      rw [List.map_cons, lastBearing_cons, lastBearing_cons,
        ih fun other hmem => hkey other (List.mem_cons_of_mem _ hmem), hkey item List.mem_cons_self,
        Option.map_or]
      cases oldKey item == oldWanted <;> rfl

/-- A table with items put in one after the other, each in place of the row that has its key already. -/
def overwritten (key : ρ → κ) (items rows : List ρ) : List ρ :=
  items.foldl (fun rows item => upsert key (fun _ row => row) item rows) rows

theorem find?_overwritten (items rows : List ρ) (wanted : κ) :
    (overwritten key items rows).find? (key · == wanted)
      = (lastBearing key items wanted).or (rows.find? (key · == wanted)) := by
  induction items generalizing rows with
  | nil => rfl
  | cons item items ih =>
      show (overwritten key items (upsert key (fun _ row => row) item rows)).find? _ = _
      rw [ih, lastBearing_cons, Option.or_assoc, find?_upsert fun _ _ => rfl]
      cases key item == wanted with
      | false => rfl
      | true => cases rows.find? (key · == wanted) <;> rfl

theorem nodup_overwritten (items : List ρ) {rows : List ρ} (hnodup : (rows.map key).Nodup) :
    ((overwritten key items rows).map key).Nodup := by
  induction items generalizing rows with
  | nil => exact hnodup
  | cons item items ih => exact ih (nodup_upsert (fun _ _ => rfl) hnodup)

theorem mem_overwritten_nil (items : List ρ) :
    row ∈ overwritten key items [] ↔ lastBearing key items (key row) = some row := by
  have hfind : (overwritten key items []).find? (key · == key row) = _ := find?_overwritten items [] (key row)
  rw [List.find?_nil, Option.or_none] at hfind
  rw [← hfind]
  exact ⟨find?_of_mem (nodup_overwritten items List.nodup_nil), List.mem_of_find?_eq_some⟩

end

namespace Table

variable {κ α : Type} [BEq κ] [LawfulBEq κ]

@[simp] theorem get?_put_self (table : Table κ α) (key : κ) (value : α) :
    (table.put key value).get? key = some value := by
  obtain ⟨entries⟩ := table
  show (upsert _ _ (key, value) entries).lookup key = some value
  induction entries with
  | nil => simp [upsert]
  | cons entry entries ih =>
      obtain ⟨known, old⟩ := entry
      by_cases hkey : known = key
      · simp [upsert, hkey]
      · have hother : (key == known) = false := beq_eq_false_iff_ne.2 (Ne.symm hkey)
        rw [upsert, if_neg (mt beq_iff_eq.1 hkey), List.lookup_cons, hother]
        exact ih

theorem get?_put_of_ne (table : Table κ α) {key other : κ} (value : α) (hne : other ≠ key) :
    (table.put key value).get? other = table.get? other := by
  obtain ⟨entries⟩ := table
  show (upsert _ _ (key, value) entries).lookup other = entries.lookup other
  have hmiss : (other == key) = false := beq_eq_false_iff_ne.2 hne
  induction entries with
  | nil => rw [upsert, List.lookup_cons, hmiss]
  | cons entry entries ih =>
      obtain ⟨known, old⟩ := entry
      by_cases hkey : known = key
      · subst hkey
        rw [upsert, if_pos (beq_self_eq_true _), List.lookup_cons, List.lookup_cons, hmiss]
      · rw [upsert, if_neg (mt beq_iff_eq.1 hkey), List.lookup_cons, List.lookup_cons, ih]

/-- Every value stands under a key of its own. -/
def IsKeyed {κ α : Type} (table : Table κ α) : Prop := (table.entries.map (·.1)).Nodup

omit [BEq κ] [LawfulBEq κ] in
theorem isKeyed_empty : (empty : Table κ α).IsKeyed := List.nodup_nil

theorem IsKeyed.put {table : Table κ α} (hkeyed : table.IsKeyed) (key : κ) (value : α) :
    (table.put key value).IsKeyed :=
  nodup_upsert (fun _ _ => rfl) hkeyed

theorem get?_of_mem {table : Table κ α} (hkeyed : table.IsKeyed) {key : κ} {value : α}
    (hmem : (key, value) ∈ table.entries) : table.get? key = some value := by
  obtain ⟨entries⟩ := table
  unfold IsKeyed at hkeyed
  unfold get?
  induction entries with
  | nil => cases hmem
  | cons entry entries ih =>
      obtain ⟨hfresh, hrest⟩ := List.nodup_cons.1 hkeyed
      rw [List.lookup_cons]
      rcases List.mem_cons.1 hmem with rfl | hmem
      · simp
      · have hne : key ≠ entry.1 := fun hsame =>
          hfresh (List.mem_map.2 ⟨(key, value), hmem, hsame⟩)
        rw [beq_eq_false_iff_ne.2 hne]
        exact ih hrest hmem

theorem get?_foldl_put (entries : List (κ × α)) (table : Table κ α) (key : κ) :
    (entries.foldl (fun table entry => table.put entry.1 entry.2) table).get? key
      = ((lastBearing (·.1) entries key).map (·.2)).or (table.get? key) := by
  induction entries generalizing table with
  | nil => rfl
  | cons entry entries ih =>
      rw [List.foldl_cons, ih, lastBearing_cons]
      by_cases hkey : entry.1 = key
      · subst hkey
        rw [get?_put_self]
        cases lastBearing (·.1) entries entry.1 <;> simp
      · rw [get?_put_of_ne _ _ (Ne.symm hkey)]
        cases lastBearing (·.1) entries key <;> simp [hkey]

theorem get?_ofList (entries : List (κ × α)) (key : κ) :
    (ofList entries).get? key = (lastBearing (·.1) entries key).map (·.2) := by
  rw [ofList, get?_foldl_put]
  exact Option.or_none

theorem isKeyed_ofList (entries : List (κ × α)) : (ofList entries).IsKeyed := by
  have hfoldl {table : Table κ α} (hkeyed : table.IsKeyed) :
      (entries.foldl (fun table entry => table.put entry.1 entry.2) table).IsKeyed := by
    induction entries generalizing table with
    | nil => exact hkeyed
    | cons entry entries ih => exact ih (hkeyed.put entry.1 entry.2)
  exact hfoldl isKeyed_empty

theorem mem_values_of_get? {table : Table κ α} {key : κ} {value : α}
    (hget : table.get? key = some value) : value ∈ table.values := by
  obtain ⟨front, back, hentries, _⟩ := List.lookup_eq_some_iff.1 hget
  exact List.mem_map.2 ⟨(key, value), by rw [hentries]; simp, rfl⟩

end Table

end RouterPoll
