import Mathlib.Data.Finset.Card
import RouterPoll.Proofs.Store.SessionKeys
import RouterPoll.Proofs.Store.Sessions
import RouterPoll.Proofs.Store.Upsert

/-!
# Entities that stay apart

A session or a lease is known by the parts of its name. The store in memory goes by the whole name, with a bar between the parts, and so does the database for translated addresses; for leases the database goes by the parts themselves. So leases always stay apart in the database, and everywhere else entities stay apart just when no two of a batch have one name although their parts are not the same. The database asks more of translated addresses: a row that was there under the name of a new entity keeps its own parts.
-/

namespace RouterPoll

/-! ### Names and parts -/

def SessionEntry.parts : SessionEntry → List String
  | pppoe session => [session.sessionId]
  | nat session => [session.protocol, session.srcAddress, session.dstAddress]
  | dhcp lease => [lease.macAddress, lease.ipAddress]

theorem SessionEntry.naturalKey_eq_intercalate (entry : SessionEntry) :
    entry.naturalKey = "|".intercalate entry.parts := by
  cases entry <;> rfl

namespace SessionBatch

def identities (batch : SessionBatch) : Finset (List String) := (batch.entries.map SessionEntry.parts).toFinset

/-- No two entities of a batch have one name, unless they are the same part for part. -/
def IsToldApart (batch : SessionBatch) : Prop :=
  ∀ left ∈ batch.entries, ∀ right ∈ batch.entries, left.naturalKey = right.naturalKey → left.parts = right.parts

instance (batch : SessionBatch) : Decidable batch.IsToldApart :=
  inferInstanceAs (Decidable (∀ left ∈ batch.entries, ∀ right ∈ batch.entries, _))

/-- No entity of a batch has the name of another one that is stored. -/
def FitsStored (batch : SessionBatch) (stored : List SessionEntry) : Prop :=
  ∀ old ∈ stored, ∀ new ∈ batch.entries, old.naturalKey = new.naturalKey → old.parts = new.parts

/-- What is stored is one entity for each one of the batch, with the fields that the last such entity has. -/
structure IsStored (batch : SessionBatch) (stored : List SessionEntry) : Prop where
  length_eq : stored.length = batch.identities.card
  mem_iff : ∀ entry, entry ∈ stored ↔ lastBearing SessionEntry.parts batch.entries entry.parts = some entry

variable {batch : SessionBatch} {stored : List SessionEntry}

theorem card_names_iff (batch : SessionBatch) :
    (batch.entries.map SessionEntry.naturalKey).toFinset.card = batch.identities.card ↔ batch.IsToldApart := by
  have himage : (batch.entries.map SessionEntry.naturalKey).toFinset = batch.identities.image ("|".intercalate ·) := by
    ext name
    simp [identities, SessionEntry.naturalKey_eq_intercalate]
  rw [himage, Finset.card_image_iff]
  constructor
  · intro hinj left hleft right hright hname
    rw [SessionEntry.naturalKey_eq_intercalate, SessionEntry.naturalKey_eq_intercalate] at hname
    exact hinj (List.mem_toFinset.2 (List.mem_map_of_mem hleft)) (List.mem_toFinset.2 (List.mem_map_of_mem hright)) hname
  · intro htold first hfirst second hsecond hname
    obtain ⟨left, hleft, rfl⟩ := List.mem_map.1 (List.mem_toFinset.1 hfirst)
    obtain ⟨right, hright, rfl⟩ := List.mem_map.1 (List.mem_toFinset.1 hsecond)
    refine htold left hleft right hright ?_
    rw [SessionEntry.naturalKey_eq_intercalate, SessionEntry.naturalKey_eq_intercalate]
    exact hname

theorem lastBearing_parts_iff (htold : batch.IsToldApart) (entry : SessionEntry) :
    batch.last? entry.naturalKey = some entry
      ↔ lastBearing SessionEntry.parts batch.entries entry.parts = some entry := by
  have hsame (hmem : entry ∈ batch.entries) : batch.last? entry.naturalKey
      = lastBearing SessionEntry.parts batch.entries entry.parts := by
    have hlast : lastBearing SessionEntry.naturalKey (batch.entries.map id) entry.naturalKey
        = (lastBearing SessionEntry.parts batch.entries entry.parts).map id := by
      refine lastBearing_map fun other hother => ?_
      rw [Bool.eq_iff_iff, beq_iff_eq, beq_iff_eq, id_eq]
      refine ⟨htold other hother entry hmem, fun hparts => ?_⟩
      rw [SessionEntry.naturalKey_eq_intercalate, hparts, SessionEntry.naturalKey_eq_intercalate]
    rwa [List.map_id, Option.map_id, id_eq] at hlast
  constructor
  · intro hlast
    rw [← hsame (mem_of_lastBearing hlast).1, hlast]
  · intro hlast
    rw [hsame (mem_of_lastBearing hlast).1, hlast]

theorem length_eq_card {κ : Type} [DecidableEq κ] {key : SessionEntry → κ} (hnodup : (stored.map key).Nodup)
    (hkeys : ∀ name, name ∈ stored.map key ↔ name ∈ batch.entries.map key) :
    stored.length = (batch.entries.map key).toFinset.card := by
  have hsame : (stored.map key).toFinset = (batch.entries.map key).toFinset := by
    ext name
    rw [List.mem_toFinset, List.mem_toFinset, hkeys]
  rw [← hsame, List.toFinset_card_of_nodup hnodup, List.length_map]

/-- The last entities of a batch under their keys have the keys of the batch. -/
theorem mem_map_key_iff {κ : Type} [BEq κ] [LawfulBEq κ] {key : SessionEntry → κ}
    (hmem : ∀ entry, entry ∈ stored ↔ lastBearing key batch.entries (key entry) = some entry) (name : κ) :
    name ∈ stored.map key ↔ name ∈ batch.entries.map key := by
  constructor
  · intro hname
    obtain ⟨entry, hentry, rfl⟩ := List.mem_map.1 hname
    exact List.mem_map_of_mem (mem_of_lastBearing ((hmem entry).1 hentry)).1
  · intro hname
    obtain ⟨entry, hentry, rfl⟩ := List.mem_map.1 hname
    obtain ⟨last, hlast⟩ : ∃ last, lastBearing key batch.entries (key entry) = some last := exists_lastBearing hentry
    have hsame : key last = key entry := (mem_of_lastBearing hlast).2
    rw [← hsame] at hlast
    exact hsame ▸ List.mem_map_of_mem ((hmem last).2 hlast)

/-- What is stored has the names of a batch, each once. -/
structure IsNamed (batch : SessionBatch) (stored : List SessionEntry) : Prop where
  nodup : (stored.map SessionEntry.naturalKey).Nodup
  mem_iff : ∀ name, name ∈ stored.map SessionEntry.naturalKey ↔ name ∈ batch.entries.map SessionEntry.naturalKey

theorem IsNamed.length_eq_iff (hnamed : batch.IsNamed stored) :
    stored.length = batch.identities.card ↔ batch.IsToldApart := by
  rw [length_eq_card hnamed.nodup hnamed.mem_iff]
  exact card_names_iff batch

theorem IsNamed.isStored (hnamed : batch.IsNamed stored) (htold : batch.IsToldApart)
    (hmem : ∀ entry, entry ∈ stored ↔ batch.last? entry.naturalKey = some entry) : batch.IsStored stored where
  length_eq := hnamed.length_eq_iff.2 htold
  mem_iff entry := (hmem entry).trans (lastBearing_parts_iff htold entry)

/-! ### The store in memory -/

theorem isNamed_snapshot (batch : SessionBatch) : batch.IsNamed batch.snapshot.values where
  nodup := by
    have hnodup : (batch.kept.map SessionEntry.naturalKey).Nodup := nodup_names_kept
    rw [kept, List.map_map] at hnodup
    rwa [show SessionEntry.naturalKey ∘ SessionEntry.narrowed = SessionEntry.naturalKey from
      funext SessionEntry.naturalKey_narrowed] at hnodup
  mem_iff := mem_map_key_iff fun _ => mem_values_snapshot

theorem isStored_snapshot_iff (batch : SessionBatch) : batch.IsStored batch.snapshot.values ↔ batch.IsToldApart :=
  ⟨fun hstored => (isNamed_snapshot batch).length_eq_iff.1 hstored.length_eq,
    fun htold => (isNamed_snapshot batch).isStored htold fun _ => mem_values_snapshot⟩

end SessionBatch

theorem SessionCall.sessionsOf_run {call : SessionCall} (hsome : call.batch.isEmpty = false) (store : MemoryStore) :
    (call.run store).2.sessionsOf call.deviceId call.batch.kind.text = call.batch.snapshot.values := by
  have hreplaces : call.replaces call.deviceId call.batch.kind = true := by
    rw [replaces, beq_self_eq_true, beq_self_eq_true, hsome]
    rfl
  have hget := call.get?_run store call.deviceId call.batch.kind
  rw [hreplaces, if_pos rfl] at hget
  rw [MemoryStore.sessionsOf, SessionKind.ofText?_text]
  show (((call.run store).2.sessions.get? (call.deviceId, call.batch.kind)).map Table.values).getD [] = _
  rw [hget]
  rfl

/-! ### Databases that can be reached -/

/-- Sessions of one kind that are the last ones under their keys are so as entities, where their keys are told apart alike. -/
theorem mem_map_iff_lastBearing {α κ ι : Type} [BEq κ] [LawfulBEq κ] [BEq ι] [LawfulBEq ι] {wrap : α → SessionEntry}
    (hwrap : Function.Injective wrap) {key : α → κ} {entryKey : SessionEntry → ι}
    (hkey : ∀ left right, (entryKey (wrap left) == entryKey (wrap right)) = (key left == key right))
    {stored sessions : List α} (hmem : ∀ session, session ∈ stored ↔ lastBearing key sessions (key session) = some session)
    (entry : SessionEntry) :
    entry ∈ stored.map wrap ↔ lastBearing entryKey (sessions.map wrap) (entryKey entry) = some entry := by
  have hlast (session : α) : lastBearing entryKey (sessions.map wrap) (entryKey (wrap session))
      = (lastBearing key sessions (key session)).map wrap := lastBearing_map fun other _ => hkey other session
  constructor
  · intro hentry
    obtain ⟨session, hsession, rfl⟩ := List.mem_map.1 hentry
    rw [hlast, (hmem session).1 hsession, Option.map_some]
  · intro hentry
    obtain ⟨session, -, rfl⟩ := List.mem_map.1 (mem_of_lastBearing hentry).1
    rw [hlast] at hentry
    obtain ⟨found, hfound, hsame⟩ := Option.map_eq_some_iff.1 hentry
    rw [hwrap hsame] at hfound
    exact List.mem_map_of_mem ((hmem session).2 hfound)

namespace Database

structure HasKeys (database : Database) : Prop where
  nat : (database.nat.map (SessionTable.rowKey .nat)).Nodup
  dhcp : (database.dhcp.map (SessionTable.rowKey .dhcp)).Nodup

theorem natRule_replaces : SessionRule.nat.Replaces fun _ => False :=
  ⟨fun _ _ hname => hname, fun _ _ hold => hold.elim⟩

theorem dhcpRule_replaces (isPlain : DhcpLease → Prop) : SessionRule.dhcp.Replaces isPlain :=
  ⟨fun _ _ _ => rfl, fun _ _ _ _ _ => rfl⟩

theorem HasKeys.run {database : Database} (hkeys : database.HasKeys) (now : Instant) (update : StoreUpdate) :
    (update.run now database).2.HasKeys := by
  cases update with
  | polled id polledAt =>
      rw [run_polled]
      exact ⟨hkeys.nat, hkeys.dhcp⟩
  | failure id =>
      rw [run_failure]
      exact ⟨hkeys.nat, hkeys.dhcp⟩
  | sessions tenantId deviceId batch =>
      cases batch with
      | pppoe sessions => exact ⟨hkeys.nat, hkeys.dhcp⟩
      | nat sessions => exact ⟨SessionTable.nodup_upsertBatch natRule_replaces hkeys.nat _, hkeys.dhcp⟩
      | dhcp leases => exact ⟨hkeys.nat, SessionTable.nodup_upsertBatch (dhcpRule_replaces _) hkeys.dhcp _⟩
  | history record => exact ⟨hkeys.nat, hkeys.dhcp⟩
  | metrics point => exact ⟨hkeys.nat, hkeys.dhcp⟩

theorem IsReached.hasKeys {database : Database} (hreached : database.IsReached) : database.HasKeys := by
  induction hreached with
  | created path => exact ⟨List.nodup_nil, List.nodup_nil⟩
  | upserted _ _ ih => exact ⟨ih.nat, ih.dhcp⟩
  | updated _ now update ih => exact ih.run now update

/-! ### Translated addresses -/

variable {database : Database} {now : Instant} {tenantId deviceId : Uuid}

section

variable {sessions : List NatSession}

theorem sessionsOf_nat (database : Database) (id : Uuid) : database.sessionsOf id .nat
    = ((SessionTable.ofDevice id.text database.nat).map (·.session)).map .nat :=
  SessionForm.Keeps.sessionsOf_eq .nat database id

theorem map_nat_naturalKey (sessions : List NatSession) :
    (sessions.map .nat).map SessionEntry.naturalKey = sessions.map SessionRule.nat.key := List.map_map

theorem HasKeys.isNamed_nat (hkeys : database.HasKeys) (hsome : sessions ≠ []) :
    SessionBatch.IsNamed (.nat sessions)
      ((database.upsertSessions now tenantId deviceId (.nat sessions)).sessionsOf deviceId .nat) := by
  obtain ⟨hnodup, hmem⟩ := SessionTable.keys_upsertBatch (fun _ _ => rfl) hkeys.nat hsome now.toMillis
  rw [sessionsOf_nat]
  refine ⟨?_, fun name => ?_⟩
  · rw [map_nat_naturalKey]
    exact hnodup
  · rw [SessionBatch.entries, map_nat_naturalKey, map_nat_naturalKey]
    exact hmem name

theorem merge_nat {old new : NatSession} (hparts : (SessionEntry.nat old).parts = (SessionEntry.nat new).parts) :
    SessionRule.nat.merge old new = new := by
  simp only [SessionEntry.parts, List.cons.injEq, and_true] at hparts
  obtain ⟨hprotocol, hsource, htarget⟩ := hparts
  show { old with replySrcAddress := new.replySrcAddress, state := new.state } = new
  rw [hprotocol, hsource, htarget]

/-- Among translated addresses of which no two have one name and other parts, a new sight leaves nothing of the old one. -/
theorem HasKeys.natRule_replaces (hkeys : database.HasKeys) (htold : SessionBatch.IsToldApart (.nat sessions))
    (hfits : SessionBatch.FitsStored (.nat sessions) (database.sessionsOf deviceId .nat)) :
    SessionRule.nat.Replaces fun session => session ∈ sessions
      ∨ session ∈ (SessionTable.ofDevice deviceId.text database.nat).map (·.session) := by
  rw [sessionsOf_nat] at hfits
  have htable : SessionTable.IsTable SessionRule.nat (fun _ => True) database.nat := ⟨hkeys.nat, fun _ _ => trivial⟩
  refine ⟨fun _ _ hname => hname, fun old new hold hnew hname => ?_⟩
  rcases hold with hold | hold
  · rcases hnew with hnew | hnew
    · exact merge_nat (htold _ (List.mem_map_of_mem hold) _ (List.mem_map_of_mem hnew) hname)
    · exact merge_nat (hfits _ (List.mem_map_of_mem hnew) _ (List.mem_map_of_mem hold) hname.symm).symm
  · rcases hnew with hnew | hnew
    · exact merge_nat (hfits _ (List.mem_map_of_mem hold) _ (List.mem_map_of_mem hnew) hname)
    · rw [List.inj_on_of_nodup_map (htable.nodup_keys deviceId.text) hold hnew hname]
      rfl

theorem nat_injective : Function.Injective SessionEntry.nat := fun _ _ => SessionEntry.nat.inj

/-- The database keeps the translated addresses of a batch just when they are told apart among themselves and from those that the device had. -/
theorem HasKeys.isStored_nat_iff (hkeys : database.HasKeys) (hsome : sessions ≠ []) :
    SessionBatch.IsStored (.nat sessions)
      ((database.upsertSessions now tenantId deviceId (.nat sessions)).sessionsOf deviceId .nat)
      ↔ SessionBatch.IsToldApart (.nat sessions)
        ∧ SessionBatch.FitsStored (.nat sessions) (database.sessionsOf deviceId .nat) := by
  have hnamed : SessionBatch.IsNamed (.nat sessions)
      ((database.upsertSessions now tenantId deviceId (.nat sessions)).sessionsOf deviceId .nat) := hkeys.isNamed_nat hsome
  constructor
  · intro hstored
    refine ⟨hnamed.length_eq_iff.1 hstored.length_eq, fun old hold new hnew hname => ?_⟩
    obtain ⟨last, hlast⟩ : ∃ last, lastBearing SessionEntry.parts (SessionBatch.entries (.nat sessions)) new.parts
        = some last := exists_lastBearing hnew
    have hparts : last.parts = new.parts := (mem_of_lastBearing hlast).2
    have hmem := (hstored.mem_iff last).2 (hparts ▸ hlast)
    rw [sessionsOf_nat] at hold hmem
    obtain ⟨known, hknown, rfl⟩ := List.mem_map.1 hold
    obtain ⟨found, hfound, rfl⟩ := List.mem_map.1 hmem
    have hkey : known.naturalKey = found.naturalKey := by
      have hsame : (SessionEntry.nat found).naturalKey = new.naturalKey := by
        rw [SessionEntry.naturalKey_eq_intercalate, hparts, SessionEntry.naturalKey_eq_intercalate]
      exact hname.trans hsame.symm
    have hidentity : (SessionEntry.nat found).parts = (SessionEntry.nat known).parts :=
      SessionTable.identity_eq_of_mem_upsertBatch (fun session => (SessionEntry.nat session).parts)
        Database.natRule_replaces (fun _ _ => rfl) hkeys.nat hknown hfound hkey
    exact hidentity.symm.trans hparts
  · rintro ⟨htold, hfits⟩
    refine hnamed.isStored htold fun entry => ?_
    rw [sessionsOf_nat]
    exact mem_map_iff_lastBearing nat_injective (fun _ _ => rfl)
      (SessionTable.mem_upsertBatch_iff hkeys.nat (hkeys.natRule_replaces htold hfits) hsome now.toMillis) entry

end

/-! ### Leases -/

section

variable {leases : List DhcpLease}

theorem sessionsOf_dhcp (database : Database) (id : Uuid) : database.sessionsOf id .dhcp
    = ((SessionTable.ofDevice id.text database.dhcp).map (·.session)).map .dhcp :=
  SessionForm.Keeps.sessionsOf_eq .dhcp database id

theorem dhcp_injective : Function.Injective SessionEntry.dhcp := fun _ _ => SessionEntry.dhcp.inj

theorem parts_dhcp (lease : DhcpLease) : (SessionEntry.dhcp lease).parts
    = [(SessionRule.dhcp.key lease).1, (SessionRule.dhcp.key lease).2] := rfl

theorem HasKeys.isStored_dhcp (hkeys : database.HasKeys) (hsome : leases ≠ []) :
    SessionBatch.IsStored (.dhcp leases)
      ((database.upsertSessions now tenantId deviceId (.dhcp leases)).sessionsOf deviceId .dhcp) := by
  have hmem (entry : SessionEntry) :
      entry ∈ (database.upsertSessions now tenantId deviceId (.dhcp leases)).sessionsOf deviceId .dhcp
        ↔ lastBearing SessionEntry.parts (SessionBatch.entries (.dhcp leases)) entry.parts = some entry := by
    rw [sessionsOf_dhcp]
    refine mem_map_iff_lastBearing dhcp_injective (fun left right => ?_)
      (SessionTable.mem_upsertBatch_iff hkeys.dhcp (dhcpRule_replaces _) hsome now.toMillis) entry
    rw [Bool.eq_iff_iff, beq_iff_eq, beq_iff_eq, parts_dhcp, parts_dhcp]
    simp [Prod.ext_iff]
  refine ⟨SessionBatch.length_eq_card ?_ (SessionBatch.mem_map_key_iff hmem), hmem⟩
  have htable : SessionTable.IsTable SessionRule.dhcp (fun _ => True)
      (database.upsertSessions now tenantId deviceId (.dhcp leases)).dhcp :=
    ⟨SessionTable.nodup_upsertBatch (dhcpRule_replaces _) hkeys.dhcp _, fun _ _ => trivial⟩
  have hparts (found : List DhcpLease) : (found.map .dhcp).map SessionEntry.parts
      = (found.map SessionRule.dhcp.key).map fun key => [key.1, key.2] := by
    rw [List.map_map, List.map_map]
    rfl
  have hinj : Function.Injective fun key : String × String => [key.1, key.2] := by
    intro left right hsame
    simp only [List.cons.injEq, and_true] at hsame
    exact Prod.ext hsame.1 hsame.2
  rw [sessionsOf_dhcp, hparts]
  exact (htable.nodup_keys deviceId.text).map hinj

end

end Database

/-- After a batch that is not empty, the device has as many entities of its kind in memory as there are different ones in the batch just when no two of these have one name, and then each has its own fields. The number of translated addresses in the database is right just as often, and each has its own fields when, besides, none that the device had has the name of another one of the batch. Leases always stay apart in the database. -/
theorem sessions_stay_apart {database : Database} (hreached : database.IsReached) (store : MemoryStore)
    {call : SessionCall} (hsome : call.batch.isEmpty = false) :
    (((call.run store).2.sessionsOf call.deviceId call.batch.kind.text).length = call.batch.identities.card
        ↔ call.batch.IsToldApart)
      ∧ (call.batch.IsStored ((call.run store).2.sessionsOf call.deviceId call.batch.kind.text)
        ↔ call.batch.IsToldApart)
      ∧ (call.batch.kind = .nat →
        (((call.run database).2.sessionsOf call.deviceId .nat).length = call.batch.identities.card
          ↔ call.batch.IsToldApart)
        ∧ (call.batch.IsStored ((call.run database).2.sessionsOf call.deviceId .nat)
          ↔ call.batch.IsToldApart ∧ call.batch.FitsStored (database.sessionsOf call.deviceId .nat)))
      ∧ (call.batch.kind = .dhcp →
        call.batch.IsStored ((call.run database).2.sessionsOf call.deviceId .dhcp)) := by
  rw [SessionCall.sessionsOf_run hsome]
  refine ⟨(SessionBatch.isNamed_snapshot call.batch).length_eq_iff, SessionBatch.isStored_snapshot_iff call.batch, ?_, ?_⟩
  · intro hkind
    obtain ⟨now, tenantId, deviceId, batch⟩ := call
    cases batch with
    | nat sessions =>
        have hne : sessions ≠ [] := by
          rintro rfl
          cases hsome
        exact ⟨(hreached.hasKeys.isNamed_nat hne).length_eq_iff, hreached.hasKeys.isStored_nat_iff hne⟩
    | _ => cases hkind
  · intro hkind
    obtain ⟨now, tenantId, deviceId, batch⟩ := call
    cases batch with
    | dhcp leases =>
        have hne : leases ≠ [] := by
          rintro rfl
          cases hsome
        exact hreached.hasKeys.isStored_dhcp hne
    | _ => cases hkind

/-! ### Bars in the parts -/

def SessionCall.barredLeases : SessionCall :=
  ⟨⟨1000, 0⟩, ⟨9⟩, ⟨1⟩, .dhcp [⟨"a|b", "c", none, true⟩, ⟨"a", "b|c", none, false⟩]⟩

/-- The database has both, and the store in memory has not. -/
theorem sessions_stay_apart_barred :
    ((SessionCall.barredLeases.run (Database.create "poll.db")).2.sessionsOf ⟨1⟩ .dhcp).length = 2
      ∧ ((SessionCall.barredLeases.run MemoryStore.empty).2.sessionsOf ⟨1⟩ "dhcp").length ≠ 2 := by
  have hsome : SessionCall.barredLeases.batch.isEmpty = false := by decide
  have hcard : SessionCall.barredLeases.batch.identities.card = 2 := by decide
  have hmerged : ¬SessionCall.barredLeases.batch.IsToldApart := by decide
  obtain ⟨hmemory, -, -, hdatabase⟩ := sessions_stay_apart (.created "poll.db") MemoryStore.empty hsome
  refine ⟨(hdatabase rfl).length_eq.trans hcard, fun hlength => hmerged (hmemory.1 ?_)⟩
  rw [hcard]
  exact hlength

def SessionCall.translated (sessions : List NatSession) : SessionCall := ⟨⟨1000, 0⟩, ⟨9⟩, ⟨1⟩, .nat sessions⟩

def NatSession.barred : NatSession := ⟨"a|b", "c", "d", none, none⟩

def NatSession.rebarred : NatSession := ⟨"a", "b|c", "d", none, none⟩

/-- Neither store has both, and the database has the first even where only the second comes later; in memory one of the two leases is lost as well. -/
theorem sessions_merged_barred : (SessionCall.translated [.barred, .rebarred]).batch.identities.card = 2
    ∧ (((SessionCall.translated [.barred, .rebarred]).run MemoryStore.empty).2.sessionsOf ⟨1⟩ "nat").length = 1
    ∧ (((SessionCall.translated [.barred, .rebarred]).run (Database.create "poll.db")).2.sessionsOf ⟨1⟩ .nat).length = 1
    ∧ ((SessionCall.translated [.rebarred]).run
      ((SessionCall.translated [.barred]).run (Database.create "poll.db")).2).2.sessionsOf ⟨1⟩ .nat = [.nat .barred]
    ∧ SessionCall.barredLeases.batch.identities.card = 2
    ∧ ((SessionCall.barredLeases.run MemoryStore.empty).2.sessionsOf ⟨1⟩ "dhcp").length = 1 :=
  ⟨by decide, by decide, by decide, by decide, by decide, by decide⟩

end RouterPoll
