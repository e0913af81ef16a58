import RouterPoll.Decimal.Layout

/-!
# Metrics

A metric is a yes or no, a whole number of 64 bits, a double or a text, under a name. The metrics of a poll are a bag sorted by name, in which a name stands once.
-/

namespace RouterPoll

inductive MetricValue where
  | bool (value : Bool)
  | integer (value : Int)
  | float (value : Float)
  | text (value : String)
  deriving DecidableEq, Inhabited

namespace MetricValue

/-- A count; one that a signed 64-bit word can not hold becomes the largest it can. -/
def ofNat (value : Nat) : MetricValue := .integer (min value Text.maxSigned64)

/-- The value as a double, if it is a number. -/
def asFloat? : MetricValue → Option Float
  | integer value => some (Decimal.ofInt value)
  | float value => some value
  | _ => none

/-- The value as a whole number, if it is a number; a double is cut. -/
def asInteger? : MetricValue → Option Int
  | integer value => some value
  | float value => some (Decimal.toSigned64 value)
  | _ => none

def asText? : MetricValue → Option String
  | text value => some value
  | _ => none

def shown : MetricValue → String
  | bool value => if value then "true" else "false"
  | integer value => Text.intText value
  | float value => Decimal.plain value
  | text value => value

end MetricValue

/-- Metrics by name, sorted. -/
structure Metrics where
  entries : List (String × MetricValue)
  deriving DecidableEq, Inhabited

namespace Metrics

def empty : Metrics := ⟨[]⟩

def insertEntry (name : String) (value : MetricValue) :
    List (String × MetricValue) → List (String × MetricValue)
  | [] => [(name, value)]
  | (known, old) :: rest =>
    if name < known then (name, value) :: (known, old) :: rest
    else if name == known then (name, value) :: rest
    else (known, old) :: insertEntry name value rest

/-- The bag with a metric set, in place of an earlier one of its name. -/
def set (metrics : Metrics) (name : String) (value : MetricValue) : Metrics :=
  ⟨insertEntry name value metrics.entries⟩

def get? (metrics : Metrics) (name : String) : Option MetricValue :=
  metrics.entries.lookup name

def contains (metrics : Metrics) (name : String) : Bool := (metrics.get? name).isSome

def size (metrics : Metrics) : Nat := metrics.entries.length

/-- The bag with a metric set, if there is a value for it. -/
def setIf (metrics : Metrics) (name : String) : Option MetricValue → Metrics
  | some value => metrics.set name value
  | none => metrics

/-- The bag with the metrics of a list set one after the other. -/
def setAll (metrics : Metrics) (values : List (String × MetricValue)) : Metrics :=
  values.foldl (fun metrics entry => metrics.set entry.1 entry.2) metrics

/-! ### Names -/

def systemDescription : String := "system_description"
def systemName : String := "system_name"
def uptimeSeconds : String := "uptime_seconds"
def interfaceCount : String := "interface_count"
def cpuPercent : String := "cpu_percent"
def memoryPercent : String := "memory_percent"
def memoryTotalMb : String := "memory_total_mb"
def memoryUsedMb : String := "memory_used_mb"
def memoryFreeMb : String := "memory_free_mb"
def temperatureCelsius : String := "temperature_celsius"
def boardName : String := "board_name"
def firmwareVersion : String := "firmware_version"
def pppoeActiveSessions : String := "pppoe_active_sessions"
def natTotalSessions : String := "nat_total_sessions"
def dhcpLeaseCount : String := "dhcp_lease_count"

end Metrics

end RouterPoll
