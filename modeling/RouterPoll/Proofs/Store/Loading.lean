import RouterPoll.Pipeline.Loader
import RouterPoll.Proofs.Store.Upsert

/-!
# What is loaded of the roles of a device

A device that is put into a store and then loaded from it has its roles by priority. From memory it has all of them, and those of one priority in the order they were given; from a database it has the listing of the roles. The two are the same exactly for settled roles: no code comes twice, and of two roles of one priority the one with the lesser code comes first. A role that is clearly the primary one is so for both, as long as no later role takes its code.
-/

namespace RouterPoll

namespace Role

/-- Roles that leave nothing to the store: codes tell them apart, and the order of the codes decides between roles of one priority. -/
def IsSettled (roles : List Role) : Prop :=
  roles.Pairwise fun left right =>
    left.code ≠ right.code ∧ (left.priority = right.priority → left.code < right.code)

instance (roles : List Role) : Decidable (IsSettled roles) := inferInstanceAs (Decidable (roles.Pairwise _))

/-- A role that is clearly the primary one: it alone is marked, or none is and it alone has the lowest priority. -/
def IsClear (roles : List Role) (role : Role) : Prop :=
  role ∈ roles ∧ ((role.isPrimary = true ∧ ∀ other ∈ roles, other.isPrimary = true → other = role)
    ∨ (∀ other ∈ roles, other.isPrimary = false)
      ∧ ∀ other ∈ roles, other ≠ role → role.priority < other.priority)

variable {roles listed : List Role}

theorem notAfter_trans (first second third : Role) (hfirst : first.notAfter second = true)
    (hsecond : second.notAfter third = true) : first.notAfter third = true := by
  unfold notAfter at *
  rw [decide_eq_true_iff] at *
  omega

theorem notAfter_total (left right : Role) : (left.notAfter right || right.notAfter left) = true := by
  unfold notAfter
  rw [Bool.or_eq_true, decide_eq_true_iff, decide_eq_true_iff]
  omega

theorem sorted_byPriority (roles : List Role) :
    (byPriority roles).Pairwise fun left right => left.notAfter right = true :=
  List.pairwise_mergeSort notAfter_trans notAfter_total roles

theorem byPriority_of_sorted (hsorted : roles.Pairwise fun left right => left.priority ≤ right.priority) :
    byPriority roles = roles :=
  List.mergeSort_of_pairwise (hsorted.imp fun hle => decide_eq_true hle)

theorem IsListing.byPriority_eq (hlisting : IsListing roles listed) : byPriority listed = listed := by
  refine byPriority_of_sorted (hlisting.sorted.imp fun hlt => ?_)
  rw [place_lt_iff] at hlt
  omega

/-- Sorting settled roles by priority puts them in the order of a database. -/
theorem IsSettled.sorted_place (hsettled : IsSettled roles) :
    (byPriority roles).Pairwise fun left right => left.place < right.place := by
  unfold byPriority
  induction roles with
  | nil =>
      rw [List.mergeSort_nil]
      exact List.Pairwise.nil
  | cons role roles ih =>
      obtain ⟨hrole, hrest⟩ := List.pairwise_cons.1 hsettled
      -- the first role is put behind those of a lower priority and before all others
      obtain ⟨front, back, hall, hothers, hfront⟩ := List.mergeSort_cons notAfter_trans notAfter_total role roles
      have hsorted := sorted_byPriority (role :: roles)
      unfold byPriority at hsorted
      rw [hall, List.pairwise_append, List.pairwise_cons] at hsorted
      have hpart := ih hrest
      have hmem (other : Role) (hother : other ∈ front ++ back) : other ∈ roles := by
        rw [← hothers, List.mem_mergeSort] at hother
        exact hother
      rw [hothers, List.pairwise_append] at hpart
      rw [hall, List.pairwise_append, List.pairwise_cons]
      refine ⟨hpart.1, ⟨fun other hother => ?_, hpart.2.1⟩, fun left hleft right hright => ?_⟩
      · have hle : role.priority ≤ other.priority := of_decide_eq_true (hsorted.2.1.1 other hother)
        have hsame := (hrole other (hmem other (List.mem_append_right _ hother))).2
        rw [place_lt_iff]
        rcases hle.lt_or_eq with hlt | heq
        · exact .inl hlt
        · exact .inr ⟨heq, hsame heq⟩
      · rcases List.mem_cons.1 hright with rfl | hback
        · have hlt := hfront left hleft
          unfold notAfter at hlt
          rw [place_lt_iff]
          left
          simpa using hlt
        · exact hpart.2.2 left hleft right hback

theorem lastBearing_eq_some_iff (hcodes : (roles.map (·.code)).Nodup) (role : Role) :
    lastBearing (·.code) roles role.code = some role ↔ role ∈ roles := by
  have hreverse : (roles.reverse.map (·.code)).Nodup := by
    rw [List.map_reverse, List.nodup_reverse]
    exact hcodes
  constructor
  · intro hlast
    exact (mem_of_lastBearing hlast).1
  · intro hmem
    exact find?_of_mem hreverse (List.mem_reverse.2 hmem)

theorem IsSettled.nodup_codes (hsettled : IsSettled roles) : (roles.map (·.code)).Nodup :=
  List.pairwise_map.2 (hsettled.imp fun hboth => hboth.1)

theorem IsSettled.isListing (hsettled : IsSettled roles) : IsListing roles (byPriority roles) where
  mem_iff role := by
    rw [lastBearing_eq_some_iff hsettled.nodup_codes, byPriority, List.mem_mergeSort]
  sorted := hsettled.sorted_place

/-- Both stores give the same roles exactly if the roles are settled. -/
theorem byPriority_eq_iff (hlisting : IsListing roles listed) : byPriority roles = listed ↔ IsSettled roles := by
  constructor
  · intro hsame
    have hcodes : (roles.map (·.code)).Nodup := by
      have hlisted := hlisting.nodup_codes
      rw [← hsame] at hlisted
      exact ((List.mergeSort_perm roles notAfter).map _).nodup_iff.1 hlisted
    rw [IsSettled, List.pairwise_iff_forall_sublist]
    intro left right hpair
    have hne : left.code ≠ right.code := by
      have hboth := (hpair.map (·.code)).nodup hcodes
      simpa using hboth
    refine ⟨hne, fun hpriority => ?_⟩
    have hkept : [left, right].Sublist listed := by
      rw [← hsame]
      exact List.pair_sublist_mergeSort notAfter_trans notAfter_total (decide_eq_true hpriority.le) hpair
    have hlt := List.pairwise_iff_forall_sublist.1 hlisting.sorted hkept
    rw [place_lt_iff] at hlt
    rcases hlt with hlower | ⟨_, hcode⟩
    · exact absurd hpriority hlower.ne
    · exact hcode
  · intro hsettled
    exact hsettled.isListing.unique hlisting

theorem byPriority_perm (hlisting : IsListing roles listed) (hcodes : (roles.map (·.code)).Nodup) :
    (byPriority roles).Perm listed := by
  refine (List.mergeSort_perm roles notAfter).trans ?_
  rw [List.perm_ext_iff_of_nodup hcodes.of_map hlisting.nodup]
  intro role
  rw [hlisting.mem_iff, lastBearing_eq_some_iff hcodes]

/-! ### The primary role -/

theorem mem_of_leading? {role : Role} (hleads : leading? roles = some role) : role ∈ roles := by
  induction roles with
  | nil => cases hleads
  | cons first rest ih =>
      rw [leading?] at hleads
      cases hrest : leading? rest with
      | none =>
          rw [hrest] at hleads
          cases hleads
          exact List.mem_cons_self
      | some other =>
          simp only [hrest] at hleads
          split at hleads
          · cases hleads
            exact List.mem_cons_of_mem _ (ih hrest)
          · cases hleads
            exact List.mem_cons_self

theorem leading?_eq {role : Role} (hmem : role ∈ roles)
    (hlowest : ∀ other ∈ roles, other ≠ role → role.priority < other.priority) : leading? roles = some role := by
  induction roles with
  | nil => cases hmem
  | cons first rest ih =>
      rw [leading?]
      by_cases hrest : role ∈ rest
      · have hleads := ih hrest fun other hother => hlowest other (List.mem_cons_of_mem _ hother)
        rw [hleads]
        by_cases hfirst : first = role
        · simp [hfirst]
        · simp [hlowest first List.mem_cons_self hfirst]
      · have hfirst : first = role := ((List.mem_cons.1 hmem).resolve_right hrest).symm
        subst hfirst
        cases hleads : leading? rest with
        | none => rfl
        | some other =>
            have hother : other ∈ rest := mem_of_leading? hleads
            have hne : other ≠ first := fun hsame => hrest (hsame ▸ hother)
            have hlt := hlowest other (List.mem_cons_of_mem _ hother) hne
            simp [hlt.not_gt]

theorem IsClear.primary?_eq {role : Role} (hclear : IsClear roles role) : primary? roles = some role := by
  obtain ⟨hmem, ⟨hprimary, honly⟩ | ⟨hnone, hlowest⟩⟩ := hclear
  · obtain ⟨found, hfound⟩ : ∃ found, roles.find? (·.isPrimary) = some found := by
      rw [← Option.isSome_iff_exists, List.find?_isSome]
      exact ⟨role, hmem, hprimary⟩
    have hsame := honly found (List.mem_of_find?_eq_some hfound) (List.find?_some hfound)
    rw [primary?, hfound, hsame, Option.some_or]
  · have hfind : roles.find? (·.isPrimary) = none := by
      rw [List.find?_eq_none]
      intro other hother
      rw [hnone other hother]
      exact Bool.false_ne_true
    rw [primary?, hfind, Option.none_or, leading?_eq hmem hlowest]

/-- What is clear among some roles is clear among fewer of them, if it is still there. -/
theorem IsClear.of_subset {role : Role} (hclear : IsClear roles role) (hsubset : listed ⊆ roles)
    (hmem : role ∈ listed) : IsClear listed role := by
  obtain ⟨_, hclear⟩ := hclear
  refine ⟨hmem, hclear.imp ?_ ?_⟩
  · rintro ⟨hprimary, honly⟩
    exact ⟨hprimary, fun other hother => honly other (hsubset hother)⟩
  · rintro ⟨hnone, hlowest⟩
    exact ⟨fun other hother => hnone other (hsubset hother),
      fun other hother => hlowest other (hsubset hother)⟩

end Role

/-! ### Loading a device -/

theorem Device.roles_loaded {σ : Type} [Store σ] {store : σ} {device : Device} {id : Uuid} {roles : List Role}
    (hid : device.id = id) (hroles : Store.roles store id = .ok roles) :
    (device.loaded store).roles = Role.byPriority roles := by
  have hkept : (device.withCapabilities store).id = id := by
    unfold withCapabilities
    split <;> exact hid
  unfold loaded withRoles
  rw [hkept, hroles]

theorem MemoryStore.loaded_upsertDevice (device : Device) (clock : Instant) :
    ∃ found, Store.readDevice? (empty.upsertDevice device) clock device.id = .ok (some found)
      ∧ (found.loaded (empty.upsertDevice device)).roles = Role.byPriority device.roles := by
  have hget : (empty.upsertDevice device).devices.get? device.id = some (mergedEntry device none) := by
    rw [get?_upsertDevice, if_pos rfl]
    rfl
  have hroles : Store.roles (empty.upsertDevice device) device.id = .ok (Role.byPriority device.roles) := by
    show ((empty.upsertDevice device).entry device.id).map _ = _
    rw [entry, hget]
    rfl
  refine ⟨(mergedEntry device none).device, ?_, ?_⟩
  · show Except.ok (((empty.upsertDevice device).devices.get? device.id).map _) = _
    rw [hget]
    rfl
  · have hsorted : Role.byPriority (Role.byPriority device.roles) = Role.byPriority device.roles :=
      List.mergeSort_of_pairwise (Role.sorted_byPriority device.roles)
    have hid : (mergedEntry device none).device.id = device.id := rfl
    rw [Device.roles_loaded hid hroles, hsorted]

theorem Database.loaded_upsertDevice (path : String) {device : Device}
    (hinterval : device.pollingInterval < Text.limit32) (hfits : ∀ role ∈ device.roles, role.Fits) (clock : Instant) :
    ∃ found, Store.readDevice? ((create path).upsertDevice device) clock device.id = .ok (some found)
      ∧ Role.IsListing device.roles (found.loaded ((create path).upsertDevice device)).roles := by
  have hlisting := Role.isListing_listed device.roles
  have hroles : Store.roles ((create path).upsertDevice device) device.id = _ :=
    rolesOf_upsertDevice (create path) hfits
  obtain ⟨before, _, hfound⟩ := (IsReached.created path).device?_upsertDevice hinterval clock
  have hloaded {found : Device} (hid : found.id = device.id) :
      Role.IsListing device.roles (found.loaded ((create path).upsertDevice device)).roles := by
    rw [Device.roles_loaded hid hroles, hlisting.byPriority_eq]
    exact hlisting
  exact ⟨_, hfound, hloaded rfl⟩

/-- A device that is put into two empty stores and loaded from them has from memory all its roles by priority, and from the database the listing of its roles. These are the same exactly if the roles are settled, and then so are the primary role and the order of the codes. In any case both have the same codes; a role that is clearly primary is primary for both, unless a later role has its code; and where no code comes twice, both have the same roles in orders that differ only within one priority. -/
theorem roles_from_both_stores (path : String) {device : Device}
    (hinterval : device.pollingInterval < Text.limit32) (hfits : ∀ role ∈ device.roles, role.Fits) (clock : Instant) :
    ∃ (store : MemoryStore) (database : Database) (inMemory inDatabase first second : Device),
      (Store.upsertDevice MemoryStore.empty device = .ok store
        ∧ Store.readDevice? store clock device.id = .ok (some inMemory) ∧ first = inMemory.loaded store)
      ∧ (Store.upsertDevice (Database.create path) device = .ok database
        ∧ Store.readDevice? database clock device.id = .ok (some inDatabase) ∧ second = inDatabase.loaded database)
      ∧ first.roles = Role.byPriority device.roles ∧ Role.IsListing device.roles second.roles
      ∧ (first.roles = second.roles ↔ Role.IsSettled device.roles)
      ∧ (Role.IsSettled device.roles →
        first.primaryRole = second.primaryRole ∧ first.roleCodes = second.roleCodes)
      ∧ (∀ code, code ∈ first.roleCodes ↔ code ∈ second.roleCodes)
      ∧ (∀ role, Role.IsClear device.roles role → lastBearing (·.code) device.roles role.code = some role →
        first.primaryRole = some role ∧ second.primaryRole = some role)
      ∧ (device.roleCodes.Nodup → first.roles.Perm second.roles
        ∧ first.roles.map (·.priority) = second.roles.map (·.priority)) := by
  obtain ⟨inMemory, hmemory, hfirst⟩ := MemoryStore.loaded_upsertDevice device clock
  obtain ⟨inDatabase, hdatabase, hlisting⟩ := Database.loaded_upsertDevice path hinterval hfits clock
  refine ⟨_, _, inMemory, inDatabase, _, _, ⟨rfl, hmemory, rfl⟩, ⟨rfl, hdatabase, rfl⟩, hfirst, hlisting, ?_⟩
  unfold Device.primaryRole Device.roleCodes
  rw [hfirst]
  generalize (inDatabase.loaded ((Database.create path).upsertDevice device)).roles = listed at hlisting
  have hsame := Role.byPriority_eq_iff hlisting
  have hmem (role : Role) : role ∈ Role.byPriority device.roles ↔ role ∈ device.roles := List.mem_mergeSort
  refine ⟨hsame, fun hsettled => ?_, fun code => ?_, fun role hclear hlast => ?_, fun hcodes => ?_⟩
  · rw [hsame.2 hsettled]
    exact ⟨rfl, rfl⟩
  · rw [hlisting.mem_codes_iff, List.mem_map, List.mem_map]
    simp only [hmem]
  · have hfront := hclear.of_subset (fun other hother => (hmem other).1 hother) ((hmem role).2 hclear.1)
    have hback := hclear.of_subset hlisting.subset ((hlisting.mem_iff role).2 hlast)
    exact ⟨hfront.primary?_eq, hback.primary?_eq⟩
  · have hperm := Role.byPriority_perm hlisting hcodes
    refine ⟨hperm, List.Perm.eq_of_pairwise (fun _ _ _ _ => le_antisymm) ?_ ?_ (hperm.map (·.priority))⟩
    · exact List.pairwise_map.2 ((Role.sorted_byPriority _).imp fun hle => of_decide_eq_true hle)
    · refine List.pairwise_map.2 (hlisting.sorted.imp fun hlt => ?_)
      rw [Role.place_lt_iff] at hlt
      omega

/-! ### Settled roles, and two that are not -/

def Device.settled : Device :=
  { Device.sample 1 with roles := [⟨"nat_gateway", none, 1, false⟩, ⟨"dhcp_server", none, 0, false⟩] }

theorem roles_from_both_stores_settled :
    ∃ (store : MemoryStore) (database : Database) (inMemory inDatabase : Device),
      Store.upsertDevice MemoryStore.empty .settled = .ok store
      ∧ Store.upsertDevice (Database.create "poll.db") .settled = .ok database
      ∧ Store.readDevice? store ⟨0, 0⟩ ⟨1⟩ = .ok (some inMemory)
      ∧ Store.readDevice? database ⟨0, 0⟩ ⟨1⟩ = .ok (some inDatabase)
      ∧ (inMemory.loaded store).roles = (inDatabase.loaded database).roles
      ∧ (inMemory.loaded store).primaryRole = some ⟨"dhcp_server", none, 0, false⟩
      ∧ (inDatabase.loaded database).primaryRole = some ⟨"dhcp_server", none, 0, false⟩ := by
  obtain ⟨store, database, inMemory, inDatabase, first, second, ⟨hstore, hmemory, rfl⟩,
    ⟨hnext, hdatabase, rfl⟩, _, _, hsame, _, _, hprimary, _⟩ :=
    roles_from_both_stores "poll.db" (by decide : Device.settled.pollingInterval < _) (by decide) ⟨0, 0⟩
  have hclear : Role.IsClear Device.settled.roles ⟨"dhcp_server", none, 0, false⟩ := by
    unfold Role.IsClear
    decide
  exact ⟨store, database, inMemory, inDatabase, hstore, hnext, hmemory, hdatabase, hsame.2 (by decide),
    hprimary _ hclear (by decide)⟩

/-- A device with two roles of one priority, against the order of their codes. -/
def Device.unsettled : Device :=
  { Device.sample 1 with roles := [⟨"pppoe_server", none, 0, false⟩, ⟨"nat_gateway", none, 0, false⟩] }

/-- Such a device has one primary role from memory and another one from a database. -/
theorem roles_of_one_priority_differ :
    ∃ (store : MemoryStore) (database : Database) (inMemory inDatabase : Device),
      Store.upsertDevice MemoryStore.empty .unsettled = .ok store
      ∧ Store.upsertDevice (Database.create "poll.db") .unsettled = .ok database
      ∧ Store.readDevice? store ⟨0, 0⟩ ⟨1⟩ = .ok (some inMemory)
      ∧ Store.readDevice? database ⟨0, 0⟩ ⟨1⟩ = .ok (some inDatabase)
      ∧ (inMemory.loaded store).roleCodes = ["pppoe_server", "nat_gateway"]
      ∧ (inDatabase.loaded database).roleCodes = ["nat_gateway", "pppoe_server"]
      ∧ (inMemory.loaded store).primaryRole = some ⟨"pppoe_server", none, 0, false⟩
      ∧ (inDatabase.loaded database).primaryRole = some ⟨"nat_gateway", none, 0, false⟩ := by
  obtain ⟨inMemory, hmemory, hfirst⟩ := MemoryStore.loaded_upsertDevice .unsettled ⟨0, 0⟩
  obtain ⟨inDatabase, hdatabase, hlisting⟩ :=
    Database.loaded_upsertDevice "poll.db" (by decide : Device.unsettled.pollingInterval < _) (by decide) ⟨0, 0⟩
  have hother : Role.IsListing Device.unsettled.roles
      [⟨"nat_gateway", none, 0, false⟩, ⟨"pppoe_server", none, 0, false⟩] := by
    refine ⟨fun role => ?_, List.pairwise_pair.2 (Role.place_lt_iff.2 (by decide))⟩
    rw [Role.lastBearing_eq_some_iff (by decide)]
    simp [Device.unsettled, or_comm]
  have hsorted : Role.byPriority Device.unsettled.roles = Device.unsettled.roles :=
    Role.byPriority_of_sorted (by decide)
  rw [hsorted] at hfirst
  have hsecond := hlisting.unique hother
  refine ⟨_, _, inMemory, inDatabase, rfl, rfl, hmemory, hdatabase, ?_⟩
  unfold Device.roleCodes Device.primaryRole
  rw [hfirst, hsecond]
  decide

end RouterPoll
