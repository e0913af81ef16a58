import RouterPoll.Store.Database

/-!
# Tampering with a database

The file of a database can be changed by other hands, so that its columns hold what no writer puts there. A change sets one column of what is kept for a device to a plain value: most are columns of the device itself, one is the document of its capabilities, and one the priority of all its roles. Even so a device has an id of its own, which stays while capabilities or roles refer to it.
-/

namespace RouterPoll

def DeviceRow.overwrite? (column : String) (cell : Cell) (row : DeviceRow) : Option DeviceRow :=
  let number? : Option Cell := match cell.inWholeColumn with
    | .null => none
    | number => some number
  match column with
  | "id" => cell.inTextColumn?.map fun id => { row with id }
  | "tenant_id" => cell.inTextColumn?.map fun tenantId => { row with tenantId }
  | "name" => cell.inTextColumn?.map fun name => { row with name }
  | "management_ip" => cell.inTextColumn?.map fun managementIp => { row with managementIp }
  | "vendor" => some { row with vendor := cell.inTextColumn? }
  | "status" => cell.inTextColumn?.map fun status => { row with status }
  | "polling_enabled" => number?.map fun pollingEnabled => { row with pollingEnabled }
  | "polling_interval_secs" => number?.map fun pollingInterval => { row with pollingInterval }
  | "last_polled_at" => some { row with lastPolledAt := cell.inWholeColumn }
  | "consecutive_failures" => number?.map fun failures => { row with failures }
  | "updated_at" => number?.map fun _ => row
  | _ => none

namespace Database

/-- The rows of a device changed, and how many there are. -/
def overwriteRows? (isOwn : ρ → Bool) (change : ρ → Option ρ) (rows : List ρ) :
    Option (Nat × List ρ) :=
  (rows.mapM fun row => if isOwn row then change row else some row).map fun changed =>
    ((rows.filter isOwn).length, changed)

/-- Whether rows of other tables refer to a device. -/
def isReferred (database : Database) (id : String) : Bool :=
  database.capabilities.any (·.deviceId == id) || database.roles.any (·.deviceId == id)

/-- Whether a device can be given another id. -/
def canRename (database : Database) (id newId : String) : Bool :=
  newId == id || database.devices.all (·.id != id)
    || !(database.devices.any (·.id == newId) || database.isReferred id)

/-- The database with a column overwritten, and the number of rows changed. -/
def overwrite? (database : Database) (id : Uuid) (column : String) (cell : Cell) :
    Option (Nat × Database) :=
  match column with
  | "payload" =>
    (overwriteRows? (·.deviceId == id.text)
      (fun row => cell.inTextColumn?.map fun payload => { row with payload })
      database.capabilities).map fun (count, capabilities) =>
        (count, { database with capabilities })
  | "priority" =>
    (overwriteRows? (·.deviceId == id.text)
      (fun row =>
        if cell == .null then none else some { row with priority := cell.inWholeColumn })
      database.roles).map fun (count, roles) => (count, { database with roles })
  | _ =>
    if column == "id" && !database.canRename id.text (cell.inTextColumn?.getD "") then none
    else
      (overwriteRows? (·.id == id.text) (DeviceRow.overwrite? column cell) database.devices).map
        fun (count, devices) => (count, { database with devices })

end Database

end RouterPoll
