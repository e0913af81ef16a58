import RouterPoll.Proofs.Net.Uuid
import RouterPoll.Proofs.Store.Calls
import RouterPoll.Proofs.Store.Memory
import RouterPoll.Proofs.Store.SessionForm

/-!
# Two stores with the same sessions

The store in memory takes a batch as a whole; the database writes it row by row and takes away what has an older stamp. Told the same batches, whatever the clock shows, both have the sessions of the last batch for a device and a kind that was not empty: one for each name, and of several with one name the last.
-/

namespace RouterPoll

def SessionBatch.last? (batch : SessionBatch) (name : String) : Option SessionEntry :=
  lastBearing SessionEntry.naturalKey batch.entries name

theorem SessionBatch.entries_length (batch : SessionBatch) : batch.entries.length = batch.size := by
  cases batch <;> exact List.length_map _

def SessionBatch.IsPlain (batch : SessionBatch) : Prop := ∀ entry ∈ batch.entries, entry.IsPlain

instance (batch : SessionBatch) : Decidable batch.IsPlain :=
  inferInstanceAs (Decidable (∀ entry ∈ batch.entries, entry.IsPlain))

/-! ### The store in memory -/

namespace SessionBatch

variable {batch : SessionBatch}

theorem isKeyed_snapshot (batch : SessionBatch) : batch.snapshot.IsKeyed := Table.isKeyed_ofList _

theorem get?_snapshot (batch : SessionBatch) (name : String) :
    batch.snapshot.get? name = batch.last? name := by
  have hlast : lastBearing (·.1) (batch.entries.map fun entry => (entry.naturalKey, entry)) name
      = (batch.last? name).map fun entry => (entry.naturalKey, entry) :=
    lastBearing_map fun _ _ => rfl
  rw [snapshot, Table.get?_ofList, hlast, Option.map_map]
  exact Option.map_id'

theorem name_eq_of_mem_snapshot {name : String} {entry : SessionEntry}
    (hmem : (name, entry) ∈ batch.snapshot.entries) : entry.naturalKey = name := by
  have hget := Table.get?_of_mem batch.isKeyed_snapshot hmem
  rw [get?_snapshot] at hget
  exact (mem_of_lastBearing hget).2

theorem mem_values_snapshot {entry : SessionEntry} :
    entry ∈ batch.snapshot.values ↔ batch.last? entry.naturalKey = some entry := by
  rw [← get?_snapshot]
  constructor
  · intro hmem
    obtain ⟨⟨name, _⟩, hrow, rfl⟩ := List.mem_map.1 hmem
    rw [name_eq_of_mem_snapshot hrow]
    exact Table.get?_of_mem batch.isKeyed_snapshot hrow
  · exact Table.mem_values_of_get?

/-- What a batch leaves in memory, as the columns would hold it. -/
def kept (batch : SessionBatch) : List SessionEntry := batch.snapshot.values.map SessionEntry.narrowed

theorem nodup_names_kept : (batch.kept.map SessionEntry.naturalKey).Nodup := by
  have hnames : batch.kept.map SessionEntry.naturalKey = batch.snapshot.entries.map (·.1) := by
    rw [kept, Table.values, List.map_map, List.map_map]
    refine List.map_congr_left fun ⟨name, entry⟩ hmem => ?_
    exact entry.naturalKey_narrowed.trans (name_eq_of_mem_snapshot hmem)
  rw [hnames]
  exact batch.isKeyed_snapshot

theorem mem_kept {entry : SessionEntry} :
    entry ∈ batch.kept ↔ (batch.last? entry.naturalKey).map SessionEntry.narrowed = some entry := by
  rw [kept, List.mem_map, Option.map_eq_some_iff]
  constructor
  · rintro ⟨last, hmem, rfl⟩
    rw [SessionEntry.naturalKey_narrowed]
    exact ⟨last, mem_values_snapshot.1 hmem, rfl⟩
  · rintro ⟨last, hlast, hsame⟩
    refine ⟨last, mem_values_snapshot.2 ?_, hsame⟩
    rw [(mem_of_lastBearing hlast).2]
    exact hlast

end SessionBatch

theorem SessionCall.get?_run (call : SessionCall) (store : MemoryStore) (id : Uuid) (kind : SessionKind) :
    (call.run store).2.sessions.get? (id, kind)
      = if call.replaces id kind then some call.batch.snapshot else store.sessions.get? (id, kind) := by
  have hview : (call.run store).2.view id = if call.deviceId = id
      then (store.view id).apply (.sessions call.tenantId call.deviceId call.batch) else store.view id :=
    MemoryStore.view_run call.now (.sessions call.tenantId call.deviceId call.batch) store id
  by_cases hdevice : call.deviceId = id
  · subst hdevice
    rw [if_pos rfl] at hview
    rw [replaces, beq_self_eq_true, Bool.true_and, Bool.beq_comm]
    exact congrArg (DeviceView.sessions · kind) hview
  · rw [if_neg hdevice] at hview
    rw [replaces, beq_eq_false_iff_ne.2 hdevice]
    exact congrArg (DeviceView.sessions · kind) hview

/-! ### A table of the database -/

namespace SessionForm

variable {κ α : Type} [BEq κ] [LawfulBEq κ] {form : SessionForm κ α} {calls : List SessionCall}
  {database : Database} {batch : SessionBatch} {id : Uuid}

omit [LawfulBEq κ] in
/-- A call replaces the sessions of its device in the table that it has sessions for. -/
theorem replaces_eq (form : SessionForm κ α) (call : SessionCall) (id : Uuid) :
    call.replaces id form.kind = (call.deviceId == id && !(form.sessions call.batch).isEmpty) := by
  have hlength := congrArg List.length (form.wrap_sessions call.batch)
  rw [List.length_map] at hlength
  have hempty : (form.sessions call.batch).isEmpty
      = !(call.batch.kind == form.kind && !call.batch.isEmpty) := by
    rw [Bool.eq_iff_iff, List.isEmpty_iff_length_eq_zero, hlength]
    split
    · rename_i hkind
      rw [List.length_map, SessionBatch.entries_length, SessionBatch.isEmpty, hkind]
      simp
    · rename_i hkind
      simp [hkind]
  rw [SessionCall.replaces, hempty, Bool.not_not, Bool.and_assoc]

omit [LawfulBEq κ] in
theorem isPlain_wrap (hplain : batch.IsPlain) {session : α} (hmem : session ∈ form.sessions batch) :
    (form.wrap session).IsPlain := by
  have hwrapped : form.wrap session ∈ (form.sessions batch).map form.wrap := List.mem_map_of_mem hmem
  rw [form.wrap_sessions] at hwrapped
  split at hwrapped
  · obtain ⟨entry, hentry, hsame⟩ := List.mem_map.1 hwrapped
    exact hsame ▸ SessionEntry.isPlain_narrowed (hplain entry hentry)
  · cases hwrapped

/-- The last session of a batch that has a name is the last one that bears its key. -/
theorem last?_wrap (hplain : batch.IsPlain) (hkind : batch.kind = form.kind) {session : α}
    (hsession : (form.wrap session).IsPlain) :
    (batch.last? (form.wrap session).naturalKey).map SessionEntry.narrowed
      = (lastBearing form.rule.key (form.sessions batch) (form.rule.key session)).map form.wrap := by
  have hnarrowed : lastBearing SessionEntry.naturalKey (batch.entries.map SessionEntry.narrowed)
      (form.wrap session).naturalKey
      = (batch.last? (form.wrap session).naturalKey).map SessionEntry.narrowed :=
    lastBearing_map fun entry _ => by rw [SessionEntry.naturalKey_narrowed]
  have hwrapped : lastBearing SessionEntry.naturalKey ((form.sessions batch).map form.wrap)
      (form.wrap session).naturalKey
      = (lastBearing form.rule.key (form.sessions batch) (form.rule.key session)).map form.wrap := by
    refine lastBearing_map fun other hmem => ?_
    rw [Bool.eq_iff_iff, beq_iff_eq, beq_iff_eq]
    exact form.name_iff other session (isPlain_wrap hplain hmem) hsession
  rw [← hnarrowed, ← hwrapped, form.wrap_sessions, if_pos hkind]

/-- A table of the database in which each device has, under each key, the last session that bears it in the last batch for the device. -/
structure Keeps (form : SessionForm κ α) (calls : List SessionCall) (database : Database) : Prop where
  table : SessionTable.IsTable form.rule (fun session => (form.wrap session).IsPlain) (form.rows database)
  last : ∀ id key, (SessionTable.seen form.rule (Uuid.text id) key (form.rows database)).map (·.1)
    = (SessionCall.lastBatch? id form.kind calls).bind fun batch =>
      lastBearing form.rule.key (form.sessions batch) key

omit [LawfulBEq κ] in
theorem keeps_create (form : SessionForm κ α) (path : String) : form.Keeps [] (.create path) where
  table := by
    rw [form.rows_create]
    exact SessionTable.isTable_nil
  last id key := by
    rw [form.rows_create]
    rfl

namespace Keeps

theorem upsertSessions (hkeeps : form.Keeps calls database) {call : SessionCall}
    (hplain : call.batch.IsPlain) : form.Keeps (calls ++ [call])
      (database.upsertSessions call.now call.tenantId call.deviceId call.batch) where
  table := by
    rw [form.rows_upsertSessions]
    exact hkeeps.table.upsertBatch form.replaces (fun _ hmem => isPlain_wrap hplain hmem) _
  last id key := by
    rw [form.rows_upsertSessions, SessionCall.lastBatch?_append, form.replaces_eq]
    by_cases hnone : form.sessions call.batch = []
    · rw [hnone, List.isEmpty_nil, Bool.not_true, Bool.and_false]
      exact hkeeps.last id key
    · rw [List.isEmpty_eq_false_iff.2 hnone, Bool.not_false, Bool.and_true]
      by_cases hdevice : call.deviceId = id
      · subst hdevice
        rw [SessionTable.seen_upsertBatch hkeeps.table form.replaces (fun _ hmem => isPlain_wrap hplain hmem)
          hnone, Option.map_map, if_pos (beq_self_eq_true _)]
        exact Option.map_id'
      · have hother : call.deviceId.text ≠ id.text := fun htext => hdevice (Uuid.text_injective htext)
        rw [SessionTable.seen_upsertBatch_of_ne _ hother, beq_eq_false_iff_ne.2 hdevice]
        exact hkeeps.last id key

omit [LawfulBEq κ] in
theorem sessionsOf_eq (form : SessionForm κ α) (database : Database) (id : Uuid) :
    database.sessionsOf id form.kind
      = ((SessionTable.ofDevice id.text (form.rows database)).map (·.session)).map form.wrap := by
  rw [Database.sessionsOf, form.rowsOf_eq, List.map_map, List.map_map]
  rfl

omit [LawfulBEq κ] in
theorem isPlain (hkeeps : form.Keeps calls database) {session : α}
    (hmem : session ∈ (SessionTable.ofDevice id.text (form.rows database)).map (·.session)) :
    (form.wrap session).IsPlain := by
  obtain ⟨row, hrow, rfl⟩ := List.mem_map.1 hmem
  exact hkeeps.table.plain row (List.mem_of_mem_filter hrow)

omit [LawfulBEq κ] in
theorem nodup_names (hkeeps : form.Keeps calls database) (id : Uuid) :
    ((database.sessionsOf id form.kind).map SessionEntry.naturalKey).Nodup := by
  have hkeys := hkeeps.table.nodup_keys id.text
  rw [sessionsOf_eq, List.map_map]
  refine List.Nodup.map_on ?_ (List.Nodup.of_map _ hkeys)
  intro left hleft right hright hname
  have hkey := (form.name_iff left right (hkeeps.isPlain hleft) (hkeeps.isPlain hright)).1 hname
  exact List.inj_on_of_nodup_map hkeys hleft hright hkey

/-- What a device has of a kind is what the last batch says under each name. -/
theorem mem_sessionsOf_iff (hkeeps : form.Keeps calls database)
    (hplain : ∀ call ∈ calls, call.batch.IsPlain) (entry : SessionEntry) :
    entry ∈ database.sessionsOf id form.kind ↔ ∃ batch ∈ SessionCall.lastBatch? id form.kind calls,
      (batch.last? entry.naturalKey).map SessionEntry.narrowed = some entry := by
  have hbatch {batch : SessionBatch} (hmem : batch ∈ SessionCall.lastBatch? id form.kind calls) :
      batch.IsPlain ∧ batch.kind = form.kind := by
    obtain ⟨call, hcall, hreplaces, rfl⟩ := SessionCall.exists_of_mem_lastBatch? hmem
    exact ⟨hplain call hcall, SessionCall.kind_of_replaces hreplaces⟩
  rw [sessionsOf_eq, List.mem_map]
  constructor
  · rintro ⟨session, hmem, rfl⟩
    have hseen := (hkeeps.table.mem_sessions_iff session).1 hmem
    rw [hkeeps.last] at hseen
    obtain ⟨batch, hin, hlast⟩ := Option.bind_eq_some_iff.1 hseen
    refine ⟨batch, hin, ?_⟩
    rw [last?_wrap (hbatch hin).1 (hbatch hin).2 (hkeeps.isPlain hmem), hlast]
    rfl
  · rintro ⟨batch, hin, hlast⟩
    obtain ⟨last, hmem, hsame⟩ := Option.map_eq_some_iff.1 hlast
    have hwrapped : entry ∈ (form.sessions batch).map form.wrap := by
      rw [form.wrap_sessions, if_pos (hbatch hin).2]
      exact List.mem_map.2 ⟨last, (mem_of_lastBearing hmem).1, hsame⟩
    obtain ⟨session, hsession, rfl⟩ := List.mem_map.1 hwrapped
    rw [last?_wrap (hbatch hin).1 (hbatch hin).2 (isPlain_wrap (hbatch hin).1 hsession)] at hlast
    obtain ⟨kept, hkept, hsame⟩ := Option.map_eq_some_iff.1 hlast
    refine ⟨kept, (hkeeps.table.mem_sessions_iff kept).2 ?_, hsame⟩
    rw [hkeeps.last, Option.bind_eq_some_iff]
    refine ⟨batch, hin, ?_⟩
    rw [(mem_of_lastBearing hkept).2]
    exact hkept

end Keeps

end SessionForm

/-! ### Both stores -/

/-- A store in memory and a database that were told the same batches. -/
structure SessionsAgree (calls : List SessionCall) (store : MemoryStore) (database : Database) : Prop where
  pppoe : SessionForm.pppoe.Keeps calls database
  nat : SessionForm.nat.Keeps calls database
  dhcp : SessionForm.dhcp.Keeps calls database
  memory : ∀ id kind, store.sessions.get? (id, kind)
    = (SessionCall.lastBatch? id kind calls).map SessionBatch.snapshot

theorem sessionsAgree_empty (path : String) : SessionsAgree [] .empty (.create path) where
  pppoe := SessionForm.keeps_create _ path
  nat := SessionForm.keeps_create _ path
  dhcp := SessionForm.keeps_create _ path
  memory _ _ := rfl

namespace SessionsAgree

variable {calls : List SessionCall} {store : MemoryStore} {database : Database}

theorem run (hagree : SessionsAgree calls store database) {call : SessionCall}
    (hplain : call.batch.IsPlain) : (call.run store).1 = .ok call.batch.size
      ∧ (call.run database).1 = .ok call.batch.size
      ∧ SessionsAgree (calls ++ [call]) (call.run store).2 (call.run database).2 := by
  refine ⟨rfl, rfl, hagree.pppoe.upsertSessions hplain, hagree.nat.upsertSessions hplain,
    hagree.dhcp.upsertSessions hplain, fun id kind => ?_⟩
  rw [call.get?_run, SessionCall.lastBatch?_append, hagree.memory]
  split <;> rfl

theorem nodup_names (hagree : SessionsAgree calls store database) (id : Uuid) (kind : SessionKind) :
    ((database.sessionsOf id kind).map SessionEntry.naturalKey).Nodup := by
  cases kind with
  | pppoe => exact hagree.pppoe.nodup_names id
  | nat => exact hagree.nat.nodup_names id
  | dhcp => exact hagree.dhcp.nodup_names id

theorem mem_sessionsOf_iff (hagree : SessionsAgree calls store database)
    (hplain : ∀ call ∈ calls, call.batch.IsPlain) (id : Uuid) (kind : SessionKind) (entry : SessionEntry) :
    entry ∈ database.sessionsOf id kind ↔ ∃ batch ∈ SessionCall.lastBatch? id kind calls,
      (batch.last? entry.naturalKey).map SessionEntry.narrowed = some entry := by
  cases kind with
  | pppoe => exact hagree.pppoe.mem_sessionsOf_iff hplain entry
  | nat => exact hagree.nat.mem_sessionsOf_iff hplain entry
  | dhcp => exact hagree.dhcp.mem_sessionsOf_iff hplain entry

theorem sessionsOf_memory (hagree : SessionsAgree calls store database) (id : Uuid) (kind : SessionKind) :
    (store.sessionsOf id kind.text).map SessionEntry.narrowed
      = ((SessionCall.lastBatch? id kind calls).map SessionBatch.kept).getD [] := by
  rw [MemoryStore.sessionsOf, SessionKind.ofText?_text]
  show (((store.sessions.get? (id, kind)).map Table.values).getD []).map _ = _
  rw [hagree.memory]
  cases SessionCall.lastBatch? id kind calls <;> rfl

theorem perm (hagree : SessionsAgree calls store database)
    (hplain : ∀ call ∈ calls, call.batch.IsPlain) (id : Uuid) (kind : SessionKind) :
    (database.sessionsOf id kind).Perm ((store.sessionsOf id kind.text).map SessionEntry.narrowed) := by
  rw [hagree.sessionsOf_memory]
  have hkept : (((SessionCall.lastBatch? id kind calls).map SessionBatch.kept).getD []).Nodup := by
    cases SessionCall.lastBatch? id kind calls with
    | none => exact List.nodup_nil
    | some batch => exact List.Nodup.of_map _ SessionBatch.nodup_names_kept
  have hrows := List.Nodup.of_map _ (hagree.nodup_names id kind)
  refine (List.perm_ext_iff_of_nodup hrows hkept).2 fun entry => ?_
  rw [hagree.mem_sessionsOf_iff hplain]
  cases SessionCall.lastBatch? id kind calls with
  | none => simp
  | some batch => simp [SessionBatch.mem_kept]

theorem sessionCount_eq (hagree : SessionsAgree calls store database)
    (hplain : ∀ call ∈ calls, call.batch.IsPlain) (id : Uuid) (kind : SessionKind) :
    database.sessionCount id kind.text = .ok (store.sessionsOf id kind.text).length := by
  rw [database.sessionCount_eq, (hagree.perm hplain id kind).length_eq, List.length_map]

end SessionsAgree

/-! ### What a call leaves as it is -/

theorem SessionForm.rowsOf_upsertSessions_of_ne {κ α : Type} [BEq κ] [LawfulBEq κ] (form : SessionForm κ α)
    {call : SessionCall} {id : Uuid} (hother : (id, form.kind) ≠ (call.deviceId, call.batch.kind))
    (database : Database) :
    (database.upsertSessions call.now call.tenantId call.deviceId call.batch).rowsOf id form.kind
      = database.rowsOf id form.kind := by
  rw [form.rowsOf_eq, form.rowsOf_eq, form.rows_upsertSessions]
  by_cases hdevice : call.deviceId = id
  · have hkind : call.batch.kind ≠ form.kind := fun hsame => hother (Prod.ext hdevice.symm hsame.symm)
    have hnone := form.wrap_sessions call.batch
    rw [if_neg hkind, List.map_eq_nil_iff] at hnone
    rw [hnone]
    rfl
  · have hother : call.deviceId.text ≠ id.text := fun htext => hdevice (Uuid.text_injective htext)
    rw [SessionTable.ofDevice_upsertBatch_of_ne _ hother]

namespace SessionCall

variable {call : SessionCall} {id : Uuid} {kind : SessionKind}

theorem run_memory_of_isEmpty (hempty : call.batch.isEmpty = true) (store : MemoryStore) :
    call.run store = (.ok 0, store) := by
  have hsize : call.batch.size = 0 := beq_iff_eq.1 hempty
  show (Except.ok call.batch.size, store.upsertSessions call.deviceId call.batch) = _
  rw [hsize, MemoryStore.upsertSessions, if_pos hempty]

theorem run_database_of_isEmpty (hempty : call.batch.isEmpty = true) (database : Database) :
    call.run database = (.ok 0, database) := by
  have hsize : call.batch.size = 0 := beq_iff_eq.1 hempty
  show (Except.ok call.batch.size,
    database.upsertSessions call.now call.tenantId call.deviceId call.batch) = _
  rw [hsize]
  cases hbatch : call.batch with
  | pppoe sessions =>
      rw [hbatch] at hsize
      rw [List.length_eq_zero_iff.1 hsize]
      rfl
  | nat sessions =>
      rw [hbatch] at hsize
      rw [List.length_eq_zero_iff.1 hsize]
      rfl
  | dhcp leases =>
      rw [hbatch] at hsize
      rw [List.length_eq_zero_iff.1 hsize]
      rfl

theorem sessionsOf_run_of_ne (hother : (id, kind) ≠ (call.deviceId, call.batch.kind)) (store : MemoryStore) :
    (call.run store).2.sessionsOf id kind.text = store.sessionsOf id kind.text := by
  have hkeeps : call.replaces id kind = false := by
    rw [Bool.eq_false_iff]
    intro hreplaces
    rw [replaces, Bool.and_eq_true, Bool.and_eq_true, beq_iff_eq, beq_iff_eq] at hreplaces
    exact hother (Prod.ext hreplaces.1.1.symm hreplaces.1.2.symm)
  have hget := call.get?_run store id kind
  rw [hkeeps] at hget
  simp only [MemoryStore.sessionsOf, SessionKind.ofText?_text, hget]
  rfl

theorem rowsOf_run_of_ne (hother : (id, kind) ≠ (call.deviceId, call.batch.kind)) (database : Database) :
    (call.run database).2.rowsOf id kind = database.rowsOf id kind := by
  cases kind with
  | pppoe => exact SessionForm.pppoe.rowsOf_upsertSessions_of_ne hother database
  | nat => exact SessionForm.nat.rowsOf_upsertSessions_of_ne hother database
  | dhcp => exact SessionForm.dhcp.rowsOf_upsertSessions_of_ne hother database

end SessionCall

/-- Told the same batches of plain sessions, whatever the clock shows, the store in memory and the database answer every call with the size of its batch and have the same sessions: of each device and kind, under each name, the last one that bears it in the last batch that was not empty, as the columns hold it. An empty batch changes nothing, and no batch touches another device or another kind. -/
theorem sessions_agree {path : String} {calls : List SessionCall}
    {answers others : List (Except StorageError Nat)} {store : MemoryStore} {database : Database}
    (hplain : ∀ call ∈ calls, call.batch.IsPlain)
    (hmemory : runAll SessionCall.run MemoryStore.empty calls = (answers, store))
    (hdatabase : runAll SessionCall.run (Database.create path) calls = (others, database)) :
    answers = calls.map (fun call => .ok call.batch.size)
      ∧ others = calls.map (fun call => .ok call.batch.size)
      ∧ (∀ id kind,
        ((database.sessionsOf id kind).map SessionEntry.naturalKey).Nodup
        ∧ (∀ entry, entry ∈ database.sessionsOf id kind
          ↔ ∃ batch ∈ SessionCall.lastBatch? id kind calls,
            (batch.last? entry.naturalKey).map SessionEntry.narrowed = some entry)
        ∧ (database.sessionsOf id kind).Perm ((store.sessionsOf id kind.text).map SessionEntry.narrowed)
        ∧ database.sessionCount id kind.text = .ok (store.sessionsOf id kind.text).length)
      ∧ ∀ call : SessionCall,
        (call.batch.isEmpty = true → call.run store = (.ok 0, store) ∧ call.run database = (.ok 0, database))
        ∧ ∀ id kind, (id, kind) ≠ (call.deviceId, call.batch.kind) →
          (call.run store).2.sessionsOf id kind.text = store.sessionsOf id kind.text
            ∧ (call.run database).2.rowsOf id kind = database.rowsOf id kind := by
  obtain ⟨hanswers, hothers, hagree⟩ := runAll_related SessionsAgree
    (fun hfront hagree => hagree.run (hplain _ (mem_of_front hfront))) (sessionsAgree_empty path)
  rw [hmemory] at hanswers hagree
  rw [hdatabase] at hothers hagree
  rw [answersTo_eq_map] at hanswers hothers
  refine ⟨hanswers, hothers, fun id kind => ?_, fun call => ?_⟩
  · exact ⟨hagree.nodup_names id kind, hagree.mem_sessionsOf_iff hplain id kind, hagree.perm hplain id kind,
      hagree.sessionCount_eq hplain id kind⟩
  · exact ⟨fun hempty => ⟨SessionCall.run_memory_of_isEmpty hempty store,
      SessionCall.run_database_of_isEmpty hempty database⟩,
      fun id kind hother => ⟨SessionCall.sessionsOf_run_of_ne hother store,
        SessionCall.rowsOf_run_of_ne hother database⟩⟩

/-! ### A clock that goes back -/

/-- The second batch comes at an earlier time than the first; it leaves one session out and names the other one twice. A batch for another device and an empty one follow. -/
def SessionCall.samples : List SessionCall :=
  [⟨⟨1000, 0⟩, ⟨9⟩, ⟨1⟩, .pppoe [⟨"a", "first", none, none, none⟩, ⟨"b", "second", none, none, some 5⟩]⟩,
    ⟨⟨500, 0⟩, ⟨9⟩, ⟨1⟩, .pppoe [⟨"b", "second", none, none, some 6⟩,
      ⟨"b", "second", none, none, some (2 ^ 64 - 1)⟩]⟩,
    ⟨⟨500, 0⟩, ⟨9⟩, ⟨2⟩, .dhcp [⟨"02:00:00:00:00:01", "10.0.0.7", none, true⟩]⟩,
    ⟨⟨400, 0⟩, ⟨9⟩, ⟨1⟩, .pppoe []⟩]

/-- The two stores after these calls. -/
theorem sessions_agree_samples : ∃ (answers : List (Except StorageError Nat)) (store : MemoryStore)
    (database : Database),
    runAll SessionCall.run MemoryStore.empty SessionCall.samples = (answers, store)
      ∧ runAll SessionCall.run (Database.create "poll.db") SessionCall.samples = (answers, database)
      ∧ answers = [.ok 2, .ok 2, .ok 1, .ok 0]
      ∧ (∀ id kind,
        (database.sessionsOf id kind).Perm ((store.sessionsOf id kind.text).map SessionEntry.narrowed))
      ∧ database.sessionsOf ⟨1⟩ .pppoe = [.pppoe ⟨"b", "second", none, none, some (2 ^ 63 - 1)⟩] := by
  have hplain : ∀ call ∈ SessionCall.samples, call.batch.IsPlain := by decide +kernel
  rcases hmemory : runAll SessionCall.run MemoryStore.empty SessionCall.samples with ⟨answers, store⟩
  rcases hdatabase : runAll SessionCall.run (Database.create "poll.db") SessionCall.samples
    with ⟨others, database⟩
  obtain ⟨hanswers, hothers, hsame, _⟩ := sessions_agree hplain hmemory hdatabase
  have hlast :
      (runAll SessionCall.run (Database.create "poll.db") SessionCall.samples).2.sessionsOf ⟨1⟩ .pppoe
        = [.pppoe ⟨"b", "second", none, none, some (2 ^ 63 - 1)⟩] := by decide +kernel
  rw [hdatabase] at hlast
  exact ⟨answers, store, database, rfl, by rw [hanswers, hothers], hanswers,
    fun id kind => (hsame id kind).2.2.1, hlast⟩

end RouterPoll
