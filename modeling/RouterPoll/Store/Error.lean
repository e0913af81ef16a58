import RouterPoll.Net.Uuid

/-!
# Why a store refuses

The causes for which a store can not do what it is asked to, and the wording of each.
-/

namespace RouterPoll

inductive StorageError where
  | connectionFailed (reason : String)
  | queryFailed (reason : String)
  | migrationFailed (reason : String)
  | invalidConfig (reason : String)
  | serialization (reason : String)
  | deviceNotFound (id : Uuid)
  | inputOutput (reason : String)
  | unhealthy (reason : String)
  deriving DecidableEq

namespace StorageError

def message : StorageError → String
  | connectionFailed reason => "failed to connect to storage backend: " ++ reason
  | queryFailed reason => "storage query failed: " ++ reason
  | migrationFailed reason => "database migration failed: " ++ reason
  | invalidConfig reason => "invalid storage configuration: " ++ reason
  | serialization reason => "serialization error: " ++ reason
  | deviceNotFound id => "device " ++ id.text ++ " not found"
  | inputOutput reason => "I/O error: " ++ reason
  | unhealthy reason => "storage backend unhealthy: " ++ reason

/-- A query for one row that finds none. -/
def noRows : StorageError := .queryFailed "no rows found"

end StorageError

end RouterPoll
