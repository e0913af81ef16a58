import RouterPoll.Proofs.Store.SessionTable
import RouterPoll.Store.Database

/-!
# The three kinds of sessions in a database

What the tables of the three kinds have in common: how a batch is written into its table, and that the names of plain sessions, whose parts are free of the bar between them, tell sessions apart just as the keys of the table do.
-/

namespace RouterPoll

/-! ### Plain names -/

/-- A text without the bar that stands between the parts of a name. -/
def IsBarless (text : String) : Prop := '|' ∉ text.toList

instance (text : String) : Decidable (IsBarless text) := inferInstanceAs (Decidable (¬ _))

theorem append_bar_inj {front other rest last : List Char} (hfront : '|' ∉ front) (hother : '|' ∉ other)
    (hsame : front ++ '|' :: rest = other ++ '|' :: last) : front = other ∧ rest = last := by
  induction front generalizing other with
  | nil =>
      cases other with
      | nil => exact ⟨rfl, (List.cons.inj hsame).2⟩
      | cons char other => exact absurd (List.mem_cons.2 (.inl (List.cons.inj hsame).1)) hother
  | cons char front ih =>
      cases other with
      | nil => exact absurd (List.mem_cons.2 (.inl (List.cons.inj hsame).1.symm)) hfront
      | cons char other =>
          obtain ⟨rfl, hrest⟩ := List.cons.inj hsame
          obtain ⟨rfl, hlast⟩ :=
            ih (mt (List.mem_cons_of_mem _) hfront) (mt (List.mem_cons_of_mem _) hother) hrest
          exact ⟨rfl, hlast⟩

/-- Two names are the same only where their first parts and what follows are. -/
theorem IsBarless.inj {front other : String} (hfront : IsBarless front) (hother : IsBarless other)
    {rest last : String} (hsame : front ++ "|" ++ rest = other ++ "|" ++ last) :
    front = other ∧ rest = last := by
  have hchars := congrArg String.toList hsame
  simp only [String.toList_append, List.append_assoc] at hchars
  obtain ⟨hstart, hend⟩ := append_bar_inj hfront hother hchars
  exact ⟨String.toList_inj.1 hstart, String.toList_inj.1 hend⟩

def NatSession.IsPlain (session : NatSession) : Prop :=
  IsBarless session.protocol ∧ IsBarless session.srcAddress ∧ IsBarless session.dstAddress

def DhcpLease.IsPlain (lease : DhcpLease) : Prop :=
  IsBarless lease.macAddress ∧ IsBarless lease.ipAddress

/-- A session whose name has a bar only where it stands between two parts. -/
def SessionEntry.IsPlain : SessionEntry → Prop
  | pppoe _ => True
  | nat session => session.IsPlain
  | dhcp lease => lease.IsPlain

instance : (entry : SessionEntry) → Decidable entry.IsPlain
  | .pppoe _ => inferInstanceAs (Decidable True)
  | .nat _ => inferInstanceAs (Decidable (_ ∧ _ ∧ _))
  | .dhcp _ => inferInstanceAs (Decidable (_ ∧ _))

theorem NatSession.naturalKey_eq (session : NatSession) : session.naturalKey
    = session.protocol ++ "|" ++ (session.srcAddress ++ "|" ++ session.dstAddress) := by
  simp only [naturalKey, String.append_assoc]

theorem NatSession.parts_eq {left right : NatSession} (hleft : left.IsPlain) (hright : right.IsPlain)
    (hname : left.naturalKey = right.naturalKey) : left.protocol = right.protocol
      ∧ left.srcAddress = right.srcAddress ∧ left.dstAddress = right.dstAddress := by
  obtain ⟨hprotocol, hsource, _⟩ := hleft
  obtain ⟨hotherProtocol, hotherSource, _⟩ := hright
  rw [naturalKey_eq, naturalKey_eq] at hname
  obtain ⟨hsame, hrest⟩ := hprotocol.inj hotherProtocol hname
  exact ⟨hsame, hsource.inj hotherSource hrest⟩

/-! ### Sessions as the columns hold them -/

def SessionEntry.narrowed : SessionEntry → SessionEntry
  | pppoe session => .pppoe session.narrowed
  | entry => entry

theorem SessionEntry.naturalKey_narrowed (entry : SessionEntry) :
    entry.narrowed.naturalKey = entry.naturalKey := by
  cases entry <;> rfl

theorem SessionEntry.isPlain_narrowed {entry : SessionEntry} (hplain : entry.IsPlain) :
    entry.narrowed.IsPlain := by
  cases entry with
  | pppoe session => trivial
  | nat session => exact hplain
  | dhcp lease => exact hplain

def Stamped.map {α β : Type} (change : α → β) (row : Stamped α) : Stamped β :=
  { row with session := change row.session }

def Database.rowsOf (database : Database) (id : Uuid) : SessionKind → List (Stamped SessionEntry)
  | .pppoe => (SessionTable.ofDevice id.text database.pppoe).map (.map .pppoe)
  | .nat => (SessionTable.ofDevice id.text database.nat).map (.map .nat)
  | .dhcp => (SessionTable.ofDevice id.text database.dhcp).map (.map .dhcp)

def Database.sessionsOf (database : Database) (id : Uuid) (kind : SessionKind) : List SessionEntry :=
  (database.rowsOf id kind).map (·.session)

theorem SessionKind.ofText?_text (kind : SessionKind) : ofText? kind.text = some kind := by
  cases kind <;> rfl

theorem Database.sessionCount_eq (database : Database) (id : Uuid) (kind : SessionKind) :
    database.sessionCount id kind.text = .ok (database.sessionsOf id kind).length := by
  rw [sessionCount, SessionKind.ofText?_text, sessionsOf, List.length_map]
  cases kind <;> simp only [rowsOf, List.length_map]

/-- How a database keeps one kind of session: by which rule, in which of its tables, and what it takes from a batch. -/
structure SessionForm (κ α : Type) [BEq κ] where
  kind : SessionKind
  rule : SessionRule κ α
  rows : Database → List (Stamped α)
  sessions : SessionBatch → List α
  wrap : α → SessionEntry
  rows_create : ∀ path, rows (.create path) = []
  rows_upsertSessions : ∀ database now tenantId deviceId batch,
    rows (database.upsertSessions now tenantId deviceId batch)
      = SessionTable.upsertBatch rule now.toMillis tenantId.text deviceId.text (sessions batch)
        (rows database)
  wrap_sessions : ∀ batch, (sessions batch).map wrap
    = if batch.kind = kind then batch.entries.map SessionEntry.narrowed else []
  rowsOf_eq : ∀ (database : Database) id,
    database.rowsOf id kind = (SessionTable.ofDevice id.text (rows database)).map (.map wrap)
  replaces : rule.Replaces fun session => (wrap session).IsPlain
  name_iff : ∀ left right, (wrap left).IsPlain → (wrap right).IsPlain →
    ((wrap left).naturalKey = (wrap right).naturalKey ↔ rule.key left = rule.key right)

namespace SessionForm

def pppoe : SessionForm String PppoeSession where
  kind := .pppoe
  rule := .pppoe
  rows := (·.pppoe)
  sessions
    | .pppoe sessions => sessions.map PppoeSession.narrowed
    | _ => []
  wrap := .pppoe
  rows_create _ := rfl
  rows_upsertSessions _ _ _ _ batch := by cases batch <;> rfl
  wrap_sessions batch := by
    cases batch with
    | pppoe sessions =>
        rw [SessionBatch.kind, if_pos rfl, SessionBatch.entries, List.map_map, List.map_map]
        rfl
    | nat sessions => rfl
    | dhcp leases => rfl
  rowsOf_eq _ _ := rfl
  replaces := ⟨fun _ _ _ => rfl, fun _ _ _ _ _ => rfl⟩
  name_iff _ _ _ _ := Iff.rfl

def nat : SessionForm String NatSession where
  kind := .nat
  rule := .nat
  rows := (·.nat)
  sessions
    | .nat sessions => sessions
    | _ => []
  wrap := .nat
  rows_create _ := rfl
  rows_upsertSessions _ _ _ _ batch := by cases batch <;> rfl
  wrap_sessions batch := by
    cases batch with
    | pppoe sessions => rfl
    | nat sessions =>
        rw [SessionBatch.kind, if_pos rfl, SessionBatch.entries, List.map_map]
        rfl
    | dhcp leases => rfl
  rowsOf_eq _ _ := rfl
  replaces := by
    refine ⟨fun _ _ hname => hname, fun old new hold hnew hname => ?_⟩
    obtain ⟨hprotocol, hsource, htarget⟩ := NatSession.parts_eq hold hnew hname
    show { old with replySrcAddress := new.replySrcAddress, state := new.state } = new
    rw [hprotocol, hsource, htarget]
  name_iff _ _ _ _ := Iff.rfl

def dhcp : SessionForm (String × String) DhcpLease where
  kind := .dhcp
  rule := .dhcp
  rows := (·.dhcp)
  sessions
    | .dhcp leases => leases
    | _ => []
  wrap := .dhcp
  rows_create _ := rfl
  rows_upsertSessions _ _ _ _ batch := by cases batch <;> rfl
  wrap_sessions batch := by
    cases batch with
    | pppoe sessions => rfl
    | nat sessions => rfl
    | dhcp leases =>
        rw [SessionBatch.kind, if_pos rfl, SessionBatch.entries, List.map_map]
        rfl
  rowsOf_eq _ _ := rfl
  replaces := ⟨fun _ _ _ => rfl, fun _ _ _ _ _ => rfl⟩
  name_iff left right hleft hright := by
    constructor
    · intro hname
      obtain ⟨hmac, haddress⟩ := hleft.1.inj hright.1 hname
      exact Prod.ext hmac haddress
    · intro hkey
      obtain ⟨hmac, haddress⟩ := Prod.mk.inj hkey
      show left.macAddress ++ "|" ++ left.ipAddress = right.macAddress ++ "|" ++ right.ipAddress
      rw [hmac, haddress]

end SessionForm

end RouterPoll
