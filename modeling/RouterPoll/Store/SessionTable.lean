import RouterPoll.Poll.Session
import RouterPoll.Store.Table
import RouterPoll.Text.Numeral

/-!
# Tables of sessions

Sessions of one kind for all devices, each row with the stamp of the batch that brought it last. A batch puts its sessions in one by one under a stamp newer than all others of the device, and then takes away what still has an older stamp. So it replaces what was there before, even where the clock stands still or goes back.
-/

namespace RouterPoll

/-- A session of a device, with the stamp of the last batch it was in. -/
structure Stamped (α : Type) where
  deviceId : String
  tenantId : String
  session : α
  lastSeen : Int
  deriving DecidableEq, Repr

/-- What makes two sessions of a device the same one, and what a new sight of a session leaves of the old. -/
structure SessionRule (κ α : Type) where
  key : α → κ
  merge : α → α → α

namespace SessionRule

def pppoe : SessionRule String PppoeSession where
  key session := session.sessionId
  merge _ new := new

/-- The fields the key is made of stay as they were. -/
def nat : SessionRule String NatSession where
  key session := session.naturalKey
  merge old new := { old with replySrcAddress := new.replySrcAddress, state := new.state }

def dhcp : SessionRule (String × String) DhcpLease where
  key lease := (lease.macAddress, lease.ipAddress)
  merge _ new := new

end SessionRule

namespace SessionTable

variable {κ α : Type} [BEq κ]

/-- The newest stamp among the sessions of a device. -/
def newestStamp (deviceId : String) (rows : List (Stamped α)) : Int :=
  (rows.filter (·.deviceId == deviceId)).foldl (fun newest row => max newest row.lastSeen) 0

/-- A row seen again keeps its tenant. -/
def mergeRow (rule : SessionRule κ α) (old new : Stamped α) : Stamped α :=
  { old with session := rule.merge old.session new.session, lastSeen := new.lastSeen }

def upsertRow (rule : SessionRule κ α) (rows : List (Stamped α)) (row : Stamped α) :
    List (Stamped α) :=
  upsert (fun row => (row.deviceId, rule.key row.session)) (mergeRow rule) row rows

/-- Takes away what a device no longer reports. -/
def prune (deviceId : String) (stamp : Int) (rows : List (Stamped α)) : List (Stamped α) :=
  rows.filter fun row => !(row.deviceId == deviceId && row.lastSeen < stamp)

/-- The table after a batch; an empty one changes nothing. -/
def upsertBatch (rule : SessionRule κ α) (nowMillis : Int) (tenantId deviceId : String)
    (sessions : List α) (rows : List (Stamped α)) : List (Stamped α) :=
  if sessions.isEmpty then rows
  else
    let stamp := max nowMillis (newestStamp deviceId rows + 1)
    prune deviceId stamp
      (sessions.foldl
        (fun rows session => upsertRow rule rows ⟨deviceId, tenantId, session, stamp⟩) rows)

/-- The sessions of one device. -/
def ofDevice (deviceId : String) (rows : List (Stamped α)) : List (Stamped α) :=
  rows.filter (·.deviceId == deviceId)

end SessionTable

/-- A session as its columns hold it: an uptime ends at `2 ^ 63 - 1`. -/
def PppoeSession.narrowed (session : PppoeSession) : PppoeSession :=
  { session with uptimeSeconds := session.uptimeSeconds.map (min · Text.maxSigned64) }

end RouterPoll
