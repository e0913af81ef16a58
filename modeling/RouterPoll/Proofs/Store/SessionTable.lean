import Mathlib.Data.List.Nodup
import RouterPoll.Proofs.Store.Table
import RouterPoll.Store.SessionTable

/-!
# What a batch leaves in a table of sessions

A batch writes its sessions one by one under a stamp that is newer than all others of the device, whatever the clock shows, and then what has an older stamp is taken away. So the device has one row for each key of the batch, with the last session that bears the key, and the rows of other devices stay as they are.
-/

namespace RouterPoll

/-- A rule by which a new sight of a session leaves nothing of the old one, among plain sessions. -/
structure SessionRule.Replaces {κ α : Type} (rule : SessionRule κ α) (isPlain : α → Prop) : Prop where
  key_merge : ∀ old new, rule.key old = rule.key new → rule.key (rule.merge old new) = rule.key new
  merge_eq : ∀ old new, isPlain old → isPlain new → rule.key old = rule.key new →
    rule.merge old new = new

namespace SessionTable

variable {κ α : Type} [BEq κ] [LawfulBEq κ] {rule : SessionRule κ α} {isPlain : α → Prop}
  {rows : List (Stamped α)} {deviceId tenantId : String} {stamp : Int}

def rowKey (rule : SessionRule κ α) (row : Stamped α) : String × κ := (row.deviceId, rule.key row.session)

/-- A table of plain sessions in which no session of a device stands twice. -/
structure IsTable (rule : SessionRule κ α) (isPlain : α → Prop) (rows : List (Stamped α)) : Prop where
  keys : (rows.map (rowKey rule)).Nodup
  plain : ∀ row ∈ rows, isPlain row.session

omit [BEq κ] [LawfulBEq κ] in
theorem isTable_nil : IsTable rule isPlain [] := ⟨List.nodup_nil, fun row hmem => by cases hmem⟩

/-! ### Stamps -/

theorem le_newestStamp {row : Stamped α} (hmem : row ∈ ofDevice deviceId rows) :
    row.lastSeen ≤ newestStamp deviceId rows := by
  have hfold {found : List (Stamped α)} {start : Int} (hrow : row ∈ found ∨ row.lastSeen ≤ start) :
      row.lastSeen ≤ found.foldl (fun newest row => max newest row.lastSeen) start := by
    induction found generalizing start with
    | nil =>
        rcases hrow with hmem | hle
        · cases hmem
        · exact hle
    | cons first rest ih =>
        refine ih ?_
        rcases hrow with hmem | hle
        · rcases List.mem_cons.1 hmem with rfl | hmem
          · exact .inr (Int.le_max_right _ _)
          · exact .inl hmem
        · exact .inr (Int.le_trans hle (Int.le_max_left _ _))
  exact hfold (.inl hmem)

/-! ### One session -/

variable {session : α}

omit [BEq κ] [LawfulBEq κ] in
theorem rowKey_mergeRow (hrule : rule.Replaces isPlain) (row old : Stamped α)
    (hkey : rowKey rule old = rowKey rule row) : rowKey rule (mergeRow rule old row) = rowKey rule row := by
  obtain ⟨hdevice, hsession⟩ := Prod.mk.inj hkey
  exact Prod.ext hdevice (hrule.key_merge _ _ hsession)

theorem IsTable.upsertRow (htable : IsTable rule isPlain rows) (hrule : rule.Replaces isPlain)
    {row : Stamped α} (hplain : isPlain row.session) : IsTable rule isPlain (upsertRow rule rows row) where
  keys := nodup_upsert (rowKey_mergeRow hrule row) htable.keys
  plain found hmem := by
    rcases mem_upsert hmem with hold | rfl | ⟨old, hold, hkey, rfl⟩
    · exact htable.plain found hold
    · exact hplain
    · show isPlain (rule.merge old.session row.session)
      rw [hrule.merge_eq _ _ (htable.plain old hold) hplain (Prod.mk.inj hkey).2]
      exact hplain

theorem of_find? {row : Stamped α} {key : κ}
    (hfound : rows.find? (rowKey rule · == (deviceId, key)) = some row) :
    row ∈ ofDevice deviceId rows ∧ row.deviceId = deviceId ∧ rule.key row.session = key := by
  have hkey : rowKey rule row = (deviceId, key) := key_eq_of_find? hfound
  obtain ⟨hdevice, hsession⟩ := Prod.mk.inj hkey
  exact ⟨List.mem_filter.2 ⟨List.mem_of_find?_eq_some hfound, beq_iff_eq.2 hdevice⟩, hdevice, hsession⟩

def seen (rule : SessionRule κ α) (deviceId : String) (key : κ) (rows : List (Stamped α)) :
    Option (α × Int) :=
  (rows.find? (rowKey rule · == (deviceId, key))).map fun row => (row.session, row.lastSeen)

theorem seen_upsertRow (htable : IsTable rule isPlain rows) (hrule : rule.Replaces isPlain)
    (hplain : isPlain session) (key : κ) :
    seen rule deviceId key (upsertRow rule rows ⟨deviceId, tenantId, session, stamp⟩)
      = if rule.key session == key then some (session, stamp) else seen rule deviceId key rows := by
  have hown : (rowKey rule ⟨deviceId, tenantId, session, stamp⟩ == (deviceId, key))
      = (rule.key session == key) := by simp [rowKey]
  unfold seen SessionTable.upsertRow
  rw [show (fun row : Stamped α => (row.deviceId, rule.key row.session)) = rowKey rule from rfl,
    find?_upsert (rowKey_mergeRow hrule _), hown]
  cases hkey : rule.key session == key with
  | false => rfl
  | true =>
      rw [if_pos rfl, if_pos rfl]
      cases hfound : rows.find? (rowKey rule · == (deviceId, key)) with
      | none => rfl
      | some old =>
          have hmerge : rule.merge old.session session = session :=
            hrule.merge_eq _ _ (htable.plain old (List.mem_of_find?_eq_some hfound)) hplain
              ((of_find? hfound).2.2.trans (beq_iff_eq.1 hkey).symm)
          show some (rule.merge old.session session, stamp) = _
          rw [hmerge]

omit [BEq κ] [LawfulBEq κ] in
theorem ofDevice_upsertRow_of_ne [BEq κ] [LawfulBEq κ] {row : Stamped α} {other : String}
    (hother : row.deviceId ≠ other) :
    ofDevice other (upsertRow rule rows row) = ofDevice other rows := by
  refine filter_upsert (beq_eq_false_iff_ne.2 hother) ?_
  intro old hkey
  have hne : old.deviceId ≠ other := (Prod.mk.inj hkey).1 ▸ hother
  exact ⟨beq_eq_false_iff_ne.2 hne, beq_eq_false_iff_ne.2 hne⟩

/-! ### Some sessions one by one -/

def written (rule : SessionRule κ α) (stamp : Int) (tenantId deviceId : String) (sessions : List α)
    (rows : List (Stamped α)) : List (Stamped α) :=
  sessions.foldl (fun rows session => upsertRow rule rows ⟨deviceId, tenantId, session, stamp⟩) rows

variable {sessions : List α}

theorem IsTable.written (htable : IsTable rule isPlain rows) (hrule : rule.Replaces isPlain)
    (hplain : ∀ session ∈ sessions, isPlain session) :
    IsTable rule isPlain (written rule stamp tenantId deviceId sessions rows) := by
  induction sessions generalizing rows with
  | nil => exact htable
  | cons session sessions ih =>
      exact ih (htable.upsertRow hrule (hplain session List.mem_cons_self))
        fun other hmem => hplain other (List.mem_cons_of_mem _ hmem)

theorem seen_written (htable : IsTable rule isPlain rows) (hrule : rule.Replaces isPlain)
    (hplain : ∀ session ∈ sessions, isPlain session) (key : κ) :
    seen rule deviceId key (written rule stamp tenantId deviceId sessions rows)
      = ((lastBearing rule.key sessions key).map (·, stamp)).or (seen rule deviceId key rows) := by
  induction sessions generalizing rows with
  | nil => rfl
  | cons session sessions ih =>
      have hfirst := hplain session List.mem_cons_self
      have hrest : ∀ other ∈ sessions, isPlain other := fun other hmem =>
        hplain other (List.mem_cons_of_mem _ hmem)
      have hnext : IsTable rule isPlain
          (SessionTable.upsertRow rule rows ⟨deviceId, tenantId, session, stamp⟩) :=
        htable.upsertRow hrule hfirst
      show seen rule deviceId key (SessionTable.written rule stamp tenantId deviceId sessions _) = _
      rw [ih hnext hrest, seen_upsertRow htable hrule hfirst, lastBearing_cons]
      cases lastBearing rule.key sessions key with
      | some last => rfl
      | none => cases rule.key session == key <;> rfl

theorem ofDevice_written_of_ne {other : String} (hother : deviceId ≠ other) :
    ofDevice other (written rule stamp tenantId deviceId sessions rows) = ofDevice other rows := by
  induction sessions generalizing rows with
  | nil => rfl
  | cons session sessions ih =>
      exact ih.trans (ofDevice_upsertRow_of_ne hother)

/-! ### A batch -/

def stampOf (nowMillis : Int) (deviceId : String) (rows : List (Stamped α)) : Int :=
  max nowMillis (newestStamp deviceId rows + 1)

theorem lt_stampOf {row : Stamped α} (nowMillis : Int) (hmem : row ∈ ofDevice deviceId rows) :
    row.lastSeen < stampOf nowMillis deviceId rows := by
  have hle := le_newestStamp hmem
  unfold stampOf
  omega

omit [LawfulBEq κ] in
theorem upsertBatch_of_ne_nil (nowMillis : Int) (hsome : sessions ≠ []) :
    upsertBatch rule nowMillis tenantId deviceId sessions rows
      = prune deviceId (stampOf nowMillis deviceId rows)
        (written rule (stampOf nowMillis deviceId rows) tenantId deviceId sessions rows) := by
  rw [upsertBatch, List.isEmpty_eq_false_iff.2 hsome]
  rfl

theorem IsTable.upsertBatch (htable : IsTable rule isPlain rows) (hrule : rule.Replaces isPlain)
    (hplain : ∀ session ∈ sessions, isPlain session) (nowMillis : Int) :
    IsTable rule isPlain (upsertBatch rule nowMillis tenantId deviceId sessions rows) := by
  by_cases hnone : sessions = []
  · subst hnone
    exact htable
  · obtain ⟨hkeys, hplain⟩ := htable.written hrule hplain
    rw [upsertBatch_of_ne_nil nowMillis hnone]
    exact ⟨hkeys.sublist (List.filter_sublist.map _),
      fun row hmem => hplain row (List.mem_of_mem_filter hmem)⟩

theorem ofDevice_upsertBatch_of_ne (nowMillis : Int) {other : String} (hother : deviceId ≠ other) :
    ofDevice other (upsertBatch rule nowMillis tenantId deviceId sessions rows) = ofDevice other rows := by
  by_cases hnone : sessions = []
  · subst hnone
    rfl
  · have hwritten : ofDevice other (written rule (stampOf nowMillis deviceId rows) tenantId deviceId
        sessions rows) = ofDevice other rows := ofDevice_written_of_ne hother
    rw [upsertBatch_of_ne_nil nowMillis hnone, ← hwritten, ofDevice, prune, List.filter_filter]
    refine List.filter_congr ?_
    intro row _
    cases hrow : row.deviceId == other with
    | false => rfl
    | true =>
        have hne : (row.deviceId == deviceId) = false := by
          rw [beq_iff_eq] at hrow
          exact beq_eq_false_iff_ne.2 fun hsame => hother (hsame.symm.trans hrow)
        rw [hne]
        rfl

theorem seen_upsertBatch_of_ne (nowMillis : Int) {other : String} (hother : deviceId ≠ other) (key : κ) :
    seen rule other key (upsertBatch rule nowMillis tenantId deviceId sessions rows)
      = seen rule other key rows := by
  have hown (found : List (Stamped α)) : found.find? (rowKey rule · == (other, key))
      = (ofDevice other found).find? (rowKey rule · == (other, key)) := by
    rw [ofDevice, List.find?_filter]
    congr 1
    funext row
    by_cases hrow : row.deviceId = other
    · subst hrow
      rw [Bool.eq_iff_iff, decide_eq_true_iff, and_iff_right (beq_self_eq_true _)]
    · simp [rowKey, hrow]
  unfold seen
  rw [hown, ofDevice_upsertBatch_of_ne nowMillis hother, ← hown]

/-- Under each key the device has the last session of the batch that bears it, and nothing else. -/
theorem seen_upsertBatch (htable : IsTable rule isPlain rows) (hrule : rule.Replaces isPlain)
    (hplain : ∀ session ∈ sessions, isPlain session) (hsome : sessions ≠ []) (nowMillis : Int) (key : κ) :
    seen rule deviceId key (upsertBatch rule nowMillis tenantId deviceId sessions rows)
      = (lastBearing rule.key sessions key).map (·, stampOf nowMillis deviceId rows) := by
  have hwritten : seen rule deviceId key (written rule (stampOf nowMillis deviceId rows) tenantId deviceId
      sessions rows) = _ := seen_written htable hrule hplain key
  rw [upsertBatch_of_ne_nil nowMillis hsome]
  unfold seen at hwritten ⊢
  rw [prune, find?_filter_of_nodup (htable.written hrule hplain).keys]
  cases hfound : (written rule (stampOf nowMillis deviceId rows) tenantId deviceId sessions rows).find?
      (rowKey rule · == (deviceId, key)) with
  | none =>
      rw [hfound] at hwritten
      have hnone := (Option.or_eq_none_iff.1 hwritten.symm).1
      rw [hnone]
      rfl
  | some row =>
      rw [hfound] at hwritten
      have hdevice : row.deviceId = deviceId := (of_find? hfound).2.1
      cases hlast : lastBearing rule.key sessions key with
      | some last =>
          rw [hlast] at hwritten
          obtain ⟨hsession, hstamp⟩ := Prod.mk.inj (Option.some.inj hwritten)
          simp [Option.filter, hsession, hstamp]
      | none =>
          rw [hlast] at hwritten
          obtain ⟨old, hold, hsame⟩ := Option.map_eq_some_iff.1 hwritten.symm
          have hstale := lt_stampOf nowMillis (of_find? hold).1
          rw [(Prod.mk.inj hsame).2] at hstale
          simp [Option.filter, hdevice, hstale]

/-- A session is kept for a device when it is found under its key. -/
theorem IsTable.mem_sessions_iff (htable : IsTable rule isPlain rows) (session : α) :
    session ∈ (ofDevice deviceId rows).map (·.session)
      ↔ (seen rule deviceId (rule.key session) rows).map (·.1) = some session := by
  have hsession : (seen rule deviceId (rule.key session) rows).map (·.1)
      = (rows.find? (rowKey rule · == (deviceId, rule.key session))).map (·.session) := by
    rw [seen, Option.map_map]
    rfl
  rw [hsession, List.mem_map]
  constructor
  · rintro ⟨row, hmem, rfl⟩
    obtain ⟨hin, hdevice⟩ := List.mem_filter.1 hmem
    have hfound := find?_of_mem htable.keys hin
    rw [rowKey, beq_iff_eq.1 hdevice] at hfound
    rw [hfound]
    rfl
  · intro hfound
    obtain ⟨row, hrow, hsame⟩ := Option.map_eq_some_iff.1 hfound
    exact ⟨row, (of_find? hrow).1, hsame⟩

omit [BEq κ] [LawfulBEq κ] in
theorem IsTable.nodup_keys (htable : IsTable rule isPlain rows) (deviceId : String) :
    (((ofDevice deviceId rows).map (·.session)).map rule.key).Nodup := by
  have hkeys : ((ofDevice deviceId rows).map (rowKey rule)).Nodup :=
    htable.keys.sublist (List.filter_sublist.map _)
  have hpairs : (ofDevice deviceId rows).map (rowKey rule)
      = (((ofDevice deviceId rows).map (·.session)).map rule.key).map (deviceId, ·) := by
    rw [List.map_map, List.map_map]
    refine List.map_congr_left fun row hmem => ?_
    exact Prod.ext (beq_iff_eq.1 (List.mem_filter.1 hmem).2) rfl
  rw [hpairs] at hkeys
  exact List.Nodup.of_map _ hkeys

end SessionTable

end RouterPoll
