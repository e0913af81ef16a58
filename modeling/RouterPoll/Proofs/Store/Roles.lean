import RouterPoll.Proofs.Store.Database
import RouterPoll.Proofs.Store.Listing
import RouterPoll.Proofs.Store.Table

/-!
# Roles of a device

Both stores order the roles of a device by priority. The store in memory keeps all of them, and roles of one priority in the order they came in. The database keeps one role of each code, the last one, and orders roles of one priority by their codes. So the two give the same roles exactly when no code comes twice and roles of one priority come in the order of their codes.
-/

namespace RouterPoll

def RoleRow.key (row : RoleRow) : String × String := (row.deviceId, row.code)

namespace Role

/-- The place of a role in a database: by its priority, and then by its code. -/
def place (role : Role) : ℤ ×ₗ String := toLex (role.priority, role.code)

theorem place_lt_iff {left right : Role} : left.place < right.place
    ↔ left.priority < right.priority ∨ left.priority = right.priority ∧ left.code < right.code :=
  Prod.Lex.toLex_lt_toLex

/-- The roles as a database has them: one of each code, the last one, in strict order. -/
structure IsListing (roles listed : List Role) : Prop where
  mem_iff : ∀ role, role ∈ listed ↔ lastBearing (·.code) roles role.code = some role
  sorted : listed.Pairwise fun left right => left.place < right.place

namespace IsListing

variable {roles listed other : List Role}

theorem nodup (hlisting : IsListing roles listed) : listed.Nodup :=
  hlisting.sorted.imp fun hlt hsame => hlt.ne (congrArg place hsame)

theorem unique (hlisting : IsListing roles listed) (hother : IsListing roles other) : listed = other := by
  have hperm : listed.Perm other := by
    rw [List.perm_ext_iff_of_nodup hlisting.nodup hother.nodup]
    intro role
    rw [hlisting.mem_iff, hother.mem_iff]
  refine hperm.eq_of_pairwise ?_ hlisting.sorted hother.sorted
  intro left right _ _ hlt hgt
  exact absurd (hlt.trans hgt) (lt_irrefl _)

theorem subset (hlisting : IsListing roles listed) : listed ⊆ roles := fun role hmem =>
  (mem_of_lastBearing ((hlisting.mem_iff role).1 hmem)).1

theorem nodup_codes (hlisting : IsListing roles listed) : (listed.map (·.code)).Nodup := by
  refine List.Nodup.map_on ?_ hlisting.nodup
  intro left hleft right hright hcode
  have hlast := (hlisting.mem_iff left).1 hleft
  rw [hcode, (hlisting.mem_iff right).1 hright] at hlast
  exact (Option.some.inj hlast).symm

theorem mem_codes_iff (hlisting : IsListing roles listed) (code : String) :
    code ∈ listed.map (·.code) ↔ code ∈ roles.map (·.code) := by
  constructor
  · intro hmem
    exact List.map_subset _ hlisting.subset hmem
  · intro hmem
    obtain ⟨role, hrole, rfl⟩ := List.mem_map.1 hmem
    obtain ⟨last, hlast⟩ : ∃ last, lastBearing (·.code) roles role.code = some last := by
      rw [← Option.isSome_iff_exists, lastBearing, List.find?_isSome]
      exact ⟨role, List.mem_reverse.2 hrole, beq_self_eq_true _⟩
    have hcode := (mem_of_lastBearing hlast).2
    refine List.mem_map.2 ⟨last, (hlisting.mem_iff last).2 ?_, hcode⟩
    rw [hcode, hlast]

end IsListing

/-! ### Roles in a database -/

def lastEach (roles : List Role) : List Role := overwritten (·.code) roles []

def listed (roles : List Role) : List Role :=
  (lastEach roles).mergeSort fun left right => decide (left.place ≤ right.place)

theorem isListing_listed (roles : List Role) : IsListing roles (listed roles) where
  mem_iff role := by rw [listed, List.mem_mergeSort, lastEach, mem_overwritten_nil]
  sorted := by
    have hsorted : (listed roles).Pairwise fun left right => decide (left.place ≤ right.place) = true :=
      pairwise_mergeSort_of_key place fun _ _ _ _ => rfl
    have hcodes : ((listed roles).map (·.code)).Nodup :=
      ((List.mergeSort_perm _ _).map _).nodup_iff.2 (nodup_overwritten roles List.nodup_nil)
    refine (hsorted.and (List.pairwise_map.1 hcodes)).imp ?_
    rintro left right ⟨hle, hne⟩
    refine lt_of_le_of_ne (of_decide_eq_true hle) fun hsame => hne ?_
    exact (Prod.ext_iff.1 (toLex.injective hsame)).2

def Fits (role : Role) : Prop := -Text.signedLimit32 ≤ role.priority ∧ role.priority ≤ RoleRow.maxPriority

instance (role : Role) : Decidable role.Fits := inferInstanceAs (Decidable (_ ∧ _))

theorem toRole_ofRole {role : Role} (hfits : role.Fits) (id : String) :
    (RoleRow.ofRole id role).toRole = .ok role := by
  unfold Fits at hfits
  show Except.ok { role with priority := if -Text.signedLimit32 ≤ role.priority ∧ _ then _ else _ } = _
  rw [if_pos hfits]

theorem notAfter_ofRole (id : String) (left right : Role) :
    (RoleRow.ofRole id left).notAfter (RoleRow.ofRole id right) = decide (left.place ≤ right.place) := by
  rw [Bool.eq_iff_iff, decide_eq_true_iff, place, place, Prod.Lex.toLex_le_toLex]
  unfold RoleRow.notAfter RoleRow.ofRole
  rw [Cell.whole_order]
  rcases lt_trichotomy left.priority right.priority with hlt | heq | hgt
  · simp [Int.compare_eq_lt.2 hlt, hlt]
  · simp [heq]
  · simp [Int.compare_eq_gt.2 hgt, hgt.not_gt, hgt.ne']

end Role

namespace Database

theorem filter_putRoles (id : String) (roles : List Role) (rows : List RoleRow) :
    (putRoles id roles rows).filter (·.deviceId == id) = (Role.lastEach roles).map (RoleRow.ofRole id) := by
  have hfilter (role : Role) (rows : List RoleRow) :
      (upsert RoleRow.key (fun _ row => row) (RoleRow.ofRole id role) rows).filter (·.deviceId == id)
      = upsert RoleRow.key (fun _ row => row) (RoleRow.ofRole id role) (rows.filter (·.deviceId == id)) := by
    refine filter_upsert_of_own (beq_self_eq_true id) fun old hkey => ?_
    exact ⟨beq_iff_eq.2 (Prod.mk.inj hkey).1, beq_self_eq_true id⟩
  have hmap (role : Role) (kept : List Role) :
      (upsert (·.code) (fun _ role => role) role kept).map (RoleRow.ofRole id)
      = upsert RoleRow.key (fun _ row => row) (RoleRow.ofRole id role) (kept.map (RoleRow.ofRole id)) := by
    refine map_upsert ?_ (fun _ => rfl) kept
    intro old
    show (id == id && old.code == role.code) = (old.code == role.code)
    rw [beq_self_eq_true, Bool.true_and]
  -- the rows of other devices pass through, and those of the device are built up as its roles are
  suffices hbuilt : ∀ (kept : List Role) (rows : List RoleRow),
      rows.filter (·.deviceId == id) = kept.map (RoleRow.ofRole id) →
      (roles.foldl (fun rows role => upsert RoleRow.key (fun _ row => row) (RoleRow.ofRole id role) rows)
        rows).filter (·.deviceId == id) = (overwritten (·.code) roles kept).map (RoleRow.ofRole id) by
    refine hbuilt [] _ ?_
    simp [List.filter_filter]
  induction roles with
  | nil => exact fun kept rows hrows => hrows
  | cons role roles ih =>
      intro kept rows hrows
      refine ih (upsert (·.code) (fun _ role => role) role kept) _ ?_
      rw [hfilter, hrows, hmap]

theorem filter_putRoles_of_ne {id other : String} (hother : id ≠ other) (roles : List Role)
    (rows : List RoleRow) :
    (putRoles id roles rows).filter (·.deviceId == other) = rows.filter (·.deviceId == other) := by
  have hkept (kept : List RoleRow) :
      (roles.foldl (fun rows role => upsert RoleRow.key (fun _ row => row) (RoleRow.ofRole id role) rows)
        kept).filter (·.deviceId == other) = kept.filter (·.deviceId == other) := by
    induction roles generalizing kept with
    | nil => rfl
    | cons role roles ih =>
        rw [List.foldl_cons, ih]
        refine filter_upsert (beq_eq_false_iff_ne.2 hother) fun old hkey => ?_
        have hid : old.deviceId = id := (Prod.mk.inj hkey).1
        exact ⟨beq_eq_false_iff_ne.2 (hid ▸ hother), beq_eq_false_iff_ne.2 hother⟩
  refine (hkept (rows.filter fun row => row.deviceId != id)).trans ?_
  rw [List.filter_filter]
  refine List.filter_congr fun row _ => ?_
  by_cases hrow : row.deviceId = other
  · simp [hrow, hother.symm]
  · simp [hrow]

/-- The roles that a device was put in with are there, as a database has them. -/
theorem rolesOf_upsertDevice (database : Database) {device : Device}
    (hfits : ∀ role ∈ device.roles, role.Fits) :
    (database.upsertDevice device).rolesOf device.id = .ok (Role.listed device.roles) := by
  have hsorted : ((Role.lastEach device.roles).map (RoleRow.ofRole device.id.text)).mergeSort RoleRow.notAfter
      = (Role.listed device.roles).map (RoleRow.ofRole device.id.text) :=
    (List.map_mergeSort fun left _ right _ => (Role.notAfter_ofRole _ left right).symm).symm
  have hread : ∀ role ∈ Role.listed device.roles, (RoleRow.ofRole device.id.text role).toRole = .ok role :=
    fun role hmem => Role.toRole_ofRole (hfits role ((Role.isListing_listed _).subset hmem)) _
  show (((putRoles device.id.text device.roles database.roles).filter _).mergeSort _).mapM _ = _
  rw [filter_putRoles, hsorted]
  exact mapM_map_ok hread

theorem rolesOf_upsertDevice_of_ne (database : Database) {device : Device} {other : Uuid}
    (hother : device.id ≠ other) :
    (database.upsertDevice device).rolesOf other = database.rolesOf other := by
  have htext : device.id.text ≠ other.text := fun hsame => hother (Uuid.text_injective hsame)
  show (((putRoles device.id.text device.roles database.roles).filter _).mergeSort _).mapM _ = _
  rw [filter_putRoles_of_ne htext]
  rfl

end Database

end RouterPoll
