import RouterPoll.Device.Capability
import RouterPoll.Device.Role
import RouterPoll.Net.Address
import RouterPoll.Net.Uuid
import RouterPoll.Time.Instant

/-!
# Devices

A router under management, and when it has to be polled. A device is due when it is enabled and active and was never polled, or when more than its whole interval has passed since its last successful poll. Past the last representable instant there is no answer.
-/

namespace RouterPoll

inductive DeviceStatus where
  | active
  | inactive
  | maintenance
  deriving DecidableEq, Repr, Inhabited

namespace DeviceStatus

def text : DeviceStatus → String
  | active => "active"
  | inactive => "inactive"
  | maintenance => "maintenance"

def ofText? : String → Option DeviceStatus
  | "active" => some active
  | "inactive" => some inactive
  | "maintenance" => some maintenance
  | _ => none

/-- Why a text is not the status of a device. -/
def refusal (text : String) : String := "unknown device status: " ++ text

theorem ofText?_text (status : DeviceStatus) : ofText? status.text = some status := by
  cases status <;> rfl

end DeviceStatus

structure Device where
  id : Uuid
  tenantId : Uuid
  name : String
  managementIp : Address
  vendor : Option String
  status : DeviceStatus
  pollingEnabled : Bool
  pollingInterval : Nat
  lastPolledAt : Option Instant
  capabilities : Option CapabilitySet
  roles : List Role
  deriving DecidableEq

namespace Device

/-- Whether the device has to be polled now; no answer when its next poll lies beyond all instants. -/
def isDue (device : Device) (now : Instant) : Option Bool :=
  if !device.pollingEnabled || device.status != .active then some false
  else match device.lastPolledAt with
    | none => some true
    | some last => (last.addSeconds device.pollingInterval).map fun next => next.before now

def roleCodes (device : Device) : List String := device.roles.map (·.code)

def hasRole (device : Device) (code : String) : Bool := device.roleCodes.contains code

def primaryRole (device : Device) : Option Role := Role.primary? device.roles

def tracksSessions (device : Device) : Bool := device.roleCodes.any Role.tracksSessions

/-- The base kinds of metrics and those its roles ask for, sorted and each once. -/
def metricTypes (device : Device) : List String :=
  ((Role.baseMetricTypes ++ device.roleCodes.flatMap Role.metricTypes).mergeSort
    fun left right => decide (left ≤ right)).eraseReps

def methodOrder (device : Device) : List String :=
  match device.capabilities with
  | some set => set.methodOrder
  | none => []

/-- The device as a store lists it: without what is loaded for it before it is polled. -/
def bare (device : Device) : Device := { device with capabilities := none, roles := [] }

end Device

end RouterPoll
