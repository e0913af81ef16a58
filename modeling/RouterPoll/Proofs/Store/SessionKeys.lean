import RouterPoll.Proofs.Store.SessionForm

/-!
# The rows of one device after a batch

What a batch does to the rows of its device depends on these rows alone. Whatever the sessions say, the device has one row for each key of the batch afterwards. Where a new sight of a session leaves nothing of the old one, among what was there and what comes, the rows are the last sessions of the batch under their keys. And where it leaves an identity that is more than the key, a row that was there keeps the one it had.
-/

namespace RouterPoll

theorem exists_lastBearing {κ ρ : Type} [BEq κ] [LawfulBEq κ] {key : ρ → κ} {item : ρ} {items : List ρ}
    (hmem : item ∈ items) : ∃ last, lastBearing key items (key item) = some last :=
  Option.isSome_iff_exists.1 (List.find?_isSome.2 ⟨item, List.mem_reverse.2 hmem, beq_self_eq_true _⟩)

namespace SessionTable

variable {κ α : Type} [BEq κ] [LawfulBEq κ] {rule : SessionRule κ α} {rows : List (Stamped α)}
  {sessions : List α} {deviceId tenantId : String}

/-! ### The rows of the device alone -/

omit [BEq κ] [LawfulBEq κ] in
theorem ofDevice_ofDevice (deviceId : String) (rows : List (Stamped α)) :
    ofDevice deviceId (ofDevice deviceId rows) = ofDevice deviceId rows := by
  rw [ofDevice, ofDevice, List.filter_filter]
  simp only [Bool.and_self]

omit [BEq κ] [LawfulBEq κ] in
theorem newestStamp_ofDevice (deviceId : String) (rows : List (Stamped α)) :
    newestStamp deviceId (ofDevice deviceId rows) = newestStamp deviceId rows := by
  have hrows := ofDevice_ofDevice deviceId rows
  unfold ofDevice at hrows ⊢
  rw [newestStamp, newestStamp, hrows]

theorem ofDevice_upsertRow {row : Stamped α} (hown : row.deviceId = deviceId) :
    ofDevice deviceId (upsertRow rule rows row) = upsertRow rule (ofDevice deviceId rows) row := by
  refine filter_upsert_of_own (beq_iff_eq.2 hown) fun old hkey => ?_
  have hdevice : (old.deviceId == deviceId) = true := beq_iff_eq.2 ((Prod.mk.inj hkey).1.trans hown)
  exact ⟨hdevice, hdevice⟩

theorem ofDevice_written (stamp : Int) : ofDevice deviceId (written rule stamp tenantId deviceId sessions rows)
    = written rule stamp tenantId deviceId sessions (ofDevice deviceId rows) := by
  induction sessions generalizing rows with
  | nil => rfl
  | cons session sessions ih =>
      exact ih.trans (congrArg (written rule stamp tenantId deviceId sessions) (ofDevice_upsertRow rfl))

/-- A batch does the same to the rows of its device, whatever rows of others there are. -/
theorem ofDevice_upsertBatch (nowMillis : Int) :
    ofDevice deviceId (upsertBatch rule nowMillis tenantId deviceId sessions rows)
      = upsertBatch rule nowMillis tenantId deviceId sessions (ofDevice deviceId rows) := by
  by_cases hnone : sessions = []
  · subst hnone
    rfl
  · have hstamp : stampOf nowMillis deviceId (ofDevice deviceId rows) = stampOf nowMillis deviceId rows := by
      rw [stampOf, stampOf, newestStamp_ofDevice]
    rw [upsertBatch_of_ne_nil nowMillis hnone, upsertBatch_of_ne_nil nowMillis hnone, hstamp, ← ofDevice_written]
    unfold ofDevice prune
    rw [List.filter_filter, List.filter_filter]
    exact List.filter_congr fun row _ => Bool.and_comm _ _

theorem nodup_written (hrule : rule.Replaces fun _ => False) (hnodup : (rows.map (rowKey rule)).Nodup) (stamp : Int) :
    ((written rule stamp tenantId deviceId sessions rows).map (rowKey rule)).Nodup := by
  induction sessions generalizing rows with
  | nil => exact hnodup
  | cons session sessions ih => exact ih (nodup_upsert (rowKey_mergeRow hrule _) hnodup)

theorem nodup_upsertBatch (hrule : rule.Replaces fun _ => False) (hnodup : (rows.map (rowKey rule)).Nodup)
    (nowMillis : Int) :
    ((upsertBatch rule nowMillis tenantId deviceId sessions rows).map (rowKey rule)).Nodup := by
  by_cases hnone : sessions = []
  · subst hnone
    exact hnodup
  · rw [upsertBatch_of_ne_nil nowMillis hnone]
    exact (nodup_written hrule hnodup _).sublist (List.filter_sublist.map _)

/-! ### What is kept -/

/-- Where a new sight of a session leaves nothing of the old one, among the sessions of a batch and those that its device had, the device has the last sessions of the batch under their keys. -/
theorem mem_upsertBatch_iff (hnodup : (rows.map (rowKey rule)).Nodup)
    (hrule : rule.Replaces fun session => session ∈ sessions ∨ session ∈ (ofDevice deviceId rows).map (·.session))
    (hsome : sessions ≠ []) (nowMillis : Int) (session : α) :
    session ∈ (ofDevice deviceId (upsertBatch rule nowMillis tenantId deviceId sessions rows)).map (·.session)
      ↔ lastBearing rule.key sessions (rule.key session) = some session := by
  have htable : IsTable rule (fun session => session ∈ sessions ∨ session ∈ (ofDevice deviceId rows).map (·.session))
      (ofDevice deviceId rows) :=
    ⟨hnodup.sublist (List.filter_sublist.map _), fun row hmem => .inr (List.mem_map_of_mem hmem)⟩
  have hafter : IsTable rule _ (upsertBatch rule nowMillis tenantId deviceId sessions (ofDevice deviceId rows)) :=
    htable.upsertBatch hrule (fun _ hmem => .inl hmem) nowMillis
  have hown : ofDevice deviceId (upsertBatch rule nowMillis tenantId deviceId sessions (ofDevice deviceId rows))
      = ofDevice deviceId (upsertBatch rule nowMillis tenantId deviceId sessions rows) := by
    rw [ofDevice_upsertBatch, ofDevice_upsertBatch, ofDevice_ofDevice]
  rw [← hown, hafter.mem_sessions_iff, seen_upsertBatch htable hrule (fun _ hmem => .inl hmem) hsome, Option.map_map]
  exact Eq.congr_left Option.map_id'

/-! ### Keys alone -/

def keyRule (κ : Type) : SessionRule κ κ := ⟨id, fun old _ => old⟩

omit [BEq κ] [LawfulBEq κ] in
theorem keyRule_replaces : (keyRule κ).Replaces fun _ => True := ⟨fun _ _ hkey => hkey, fun _ _ _ _ hkey => hkey⟩

omit [LawfulBEq κ] in
theorem map_upsertRow (hmerge : ∀ old new, rule.key (rule.merge old new) = rule.key old) (row : Stamped α) :
    (upsertRow rule rows row).map (.map rule.key)
      = upsertRow (keyRule κ) (rows.map (.map rule.key)) (row.map rule.key) := by
  have hkey (old : Stamped α) : (rowKey (keyRule κ) (old.map rule.key) == rowKey (keyRule κ) (row.map rule.key))
      = (rowKey rule old == rowKey rule row) := rfl
  have hmerged (old : Stamped α) : mergeRow (keyRule κ) (old.map rule.key) (row.map rule.key)
      = (mergeRow rule old row).map rule.key := by
    unfold mergeRow Stamped.map
    rw [hmerge]
    rfl
  exact map_upsert hkey hmerged rows

omit [LawfulBEq κ] in
theorem map_written (hmerge : ∀ old new, rule.key (rule.merge old new) = rule.key old) (stamp : Int) :
    (written rule stamp tenantId deviceId sessions rows).map (.map rule.key)
      = written (keyRule κ) stamp tenantId deviceId (sessions.map rule.key) (rows.map (.map rule.key)) := by
  induction sessions generalizing rows with
  | nil => rfl
  | cons session sessions ih =>
      exact ih.trans (congrArg (written (keyRule κ) stamp tenantId deviceId (sessions.map rule.key))
        (map_upsertRow hmerge _))

omit [BEq κ] [LawfulBEq κ] in
theorem ofDevice_map {β : Type} (change : α → β) (deviceId : String) (rows : List (Stamped α)) :
    ofDevice deviceId (rows.map (.map change)) = (ofDevice deviceId rows).map (.map change) := List.filter_map

omit [BEq κ] [LawfulBEq κ] in
theorem stampOf_map {β : Type} (change : α → β) (nowMillis : Int) (deviceId : String) (rows : List (Stamped α)) :
    stampOf nowMillis deviceId (rows.map (.map change)) = stampOf nowMillis deviceId rows := by
  have hrows := ofDevice_map change deviceId rows
  unfold ofDevice at hrows
  rw [stampOf, stampOf, newestStamp, newestStamp, hrows, List.foldl_map]
  rfl

omit [LawfulBEq κ] in
/-- Where a new sight of a session leaves its key as it was, a batch does to the keys of a table what it does to the table. -/
theorem map_upsertBatch (hmerge : ∀ old new, rule.key (rule.merge old new) = rule.key old) (nowMillis : Int) :
    (upsertBatch rule nowMillis tenantId deviceId sessions rows).map (.map rule.key)
      = upsertBatch (keyRule κ) nowMillis tenantId deviceId (sessions.map rule.key) (rows.map (.map rule.key)) := by
  by_cases hnone : sessions = []
  · subst hnone
    rfl
  · rw [upsertBatch_of_ne_nil nowMillis hnone, upsertBatch_of_ne_nil nowMillis (mt List.map_eq_nil_iff.1 hnone),
      stampOf_map, ← map_written hmerge]
    unfold prune
    rw [List.filter_map]
    rfl

/-- Where a new sight of a session leaves its key as it was, the device has the keys of the batch, each once. -/
theorem keys_upsertBatch (hmerge : ∀ old new, rule.key (rule.merge old new) = rule.key old)
    (hnodup : (rows.map (rowKey rule)).Nodup) (hsome : sessions ≠ []) (nowMillis : Int) :
    (((ofDevice deviceId (upsertBatch rule nowMillis tenantId deviceId sessions rows)).map (·.session)).map
        rule.key).Nodup
      ∧ ∀ key, key ∈ ((ofDevice deviceId (upsertBatch rule nowMillis tenantId deviceId sessions rows)).map
          (·.session)).map rule.key ↔ key ∈ sessions.map rule.key := by
  have htable : IsTable (keyRule κ) (fun _ => True) (rows.map (.map rule.key)) := by
    refine ⟨?_, fun _ _ => trivial⟩
    rw [List.map_map]
    exact hnodup
  have hafter : IsTable (keyRule κ) (fun _ => True) (upsertBatch (keyRule κ) nowMillis tenantId deviceId
      (sessions.map rule.key) (rows.map (.map rule.key))) :=
    htable.upsertBatch keyRule_replaces (fun _ _ => trivial) nowMillis
  have hkeys : ((ofDevice deviceId (upsertBatch rule nowMillis tenantId deviceId sessions rows)).map
      (·.session)).map rule.key = (ofDevice deviceId (upsertBatch (keyRule κ) nowMillis tenantId deviceId
        (sessions.map rule.key) (rows.map (.map rule.key)))).map (·.session) := by
    rw [← map_upsertBatch hmerge, ofDevice_map, List.map_map, List.map_map]
    rfl
  rw [hkeys]
  refine ⟨?_, fun key => ?_⟩
  · have hnames := hafter.nodup_keys deviceId
    rwa [show (keyRule κ).key = id from rfl, List.map_id] at hnames
  · rw [hafter.mem_sessions_iff, seen_upsertBatch htable keyRule_replaces (fun _ _ => trivial)
      (mt List.map_eq_nil_iff.1 hsome), Option.map_map]
    show (lastBearing id (sessions.map rule.key) key).map id = some key ↔ _
    rw [Option.map_id, id_eq]
    constructor
    · exact fun hlast => (mem_of_lastBearing hlast).1
    · intro hmem
      obtain ⟨last, hlast⟩ : ∃ last, lastBearing id (sessions.map rule.key) key = some last := exists_lastBearing hmem
      rw [hlast, show last = key from (mem_of_lastBearing hlast).2]

/-! ### What stays of a row -/

section

variable {ι : Type} {identity : α → ι} {key : κ}

/-- The identity of the session that a device has under a key. -/
def identityOf (rule : SessionRule κ α) (identity : α → ι) (deviceId : String) (key : κ) (rows : List (Stamped α)) :
    Option ι := (rows.find? (rowKey rule · == (deviceId, key))).map (identity ·.session)

theorem identityOf_of_mem (hnodup : (rows.map (rowKey rule)).Nodup) {session : α}
    (hmem : session ∈ (ofDevice deviceId rows).map (·.session)) :
    identityOf rule identity deviceId (rule.key session) rows = some (identity session) := by
  obtain ⟨row, hrow, rfl⟩ := List.mem_map.1 hmem
  obtain ⟨hin, hdevice⟩ := List.mem_filter.1 hrow
  have hfound := find?_of_mem hnodup hin
  rw [rowKey, beq_iff_eq.1 hdevice] at hfound
  rw [identityOf, hfound]
  rfl

theorem identityOf_written (hrule : rule.Replaces fun _ => False)
    (hmerge : ∀ old new, identity (rule.merge old new) = identity old) (stamp : Int) {known : ι}
    (hknown : identityOf rule identity deviceId key rows = some known) :
    identityOf rule identity deviceId key (written rule stamp tenantId deviceId sessions rows) = some known := by
  induction sessions generalizing rows with
  | nil => exact hknown
  | cons session sessions ih =>
      refine ih ?_
      obtain ⟨row, hrow, hsame⟩ := Option.map_eq_some_iff.1 hknown
      have hfound : (upsertRow rule rows ⟨deviceId, tenantId, session, stamp⟩).find? (rowKey rule · == (deviceId, key)) = _ :=
        find?_upsert (rowKey_mergeRow hrule _) rows (deviceId, key)
      rw [identityOf, hfound, hrow]
      split
      · exact congrArg some ((hmerge _ _).trans hsame)
      · exact congrArg some hsame

/-- Where a new sight of a session leaves its identity as it was, what a device has after a batch under a key that was there has the identity that was there. -/
theorem identity_eq_of_mem_upsertBatch (identity : α → ι) (hrule : rule.Replaces fun _ => False)
    (hmerge : ∀ old new, identity (rule.merge old new) = identity old) (hnodup : (rows.map (rowKey rule)).Nodup)
    {nowMillis : Int} {old session : α} (hold : old ∈ (ofDevice deviceId rows).map (·.session))
    (hmem : session ∈ (ofDevice deviceId (upsertBatch rule nowMillis tenantId deviceId sessions rows)).map (·.session))
    (hkey : rule.key old = rule.key session) : identity session = identity old := by
  have hknown : identityOf rule identity deviceId (rule.key old) rows = some (identity old) :=
    identityOf_of_mem hnodup hold
  by_cases hnone : sessions = []
  · subst hnone
    have hsession : identityOf rule identity deviceId (rule.key session) rows = some (identity session) :=
      identityOf_of_mem hnodup hmem
    rw [← hkey, hknown] at hsession
    exact (Option.some.inj hsession).symm
  · rw [upsertBatch_of_ne_nil nowMillis hnone] at hmem
    have hwritten : session ∈ (ofDevice deviceId (written rule (stampOf nowMillis deviceId rows) tenantId deviceId
        sessions rows)).map (·.session) :=
      ((List.filter_sublist.filter _).map _).subset hmem
    have hsession : identityOf rule identity deviceId (rule.key session) _ = some (identity session) :=
      identityOf_of_mem (nodup_written hrule hnodup _) hwritten
    rw [← hkey, identityOf_written hrule hmerge _ hknown] at hsession
    exact (Option.some.inj hsession).symm

end

end SessionTable

end RouterPoll
