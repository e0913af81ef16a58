import RouterPoll.Device.Basic
import RouterPoll.Poll.Metric
import RouterPoll.Poll.Session

/-!
# Results

What one attempt to poll one device brought back. A result begins empty and unsuccessful, is filled while the attempt runs, and is stamped when it succeeds or fails.
-/

namespace RouterPoll

structure PollResult where
  deviceId : Uuid
  tenantId : Uuid
  adapter : String
  success : Bool
  metrics : Metrics
  interfaces : List InterfaceStatus
  pppoeSessions : List PppoeSession
  natSessions : List NatSession
  dhcpLeases : List DhcpLease
  startedAt : Instant
  completedAt : Instant
  responseTimeMs : Nat
  error : Option String
  cancelled : Bool
  deriving DecidableEq

namespace PollResult

/-- The name that stands for no adapter at all. -/
def noAdapter : String := "none"

/-- The empty result of an attempt that begins now. -/
def start (device : Device) (adapter : String) (now : Instant) : PollResult where
  deviceId := device.id
  tenantId := device.tenantId
  adapter := adapter
  success := false
  metrics := .empty
  interfaces := []
  pppoeSessions := []
  natSessions := []
  dhcpLeases := []
  startedAt := now
  completedAt := now
  responseTimeMs := 0
  error := none
  cancelled := false

/-- The result with the time of its end and how long it took. -/
def finish (result : PollResult) (now : Instant) : PollResult :=
  { result with completedAt := now, responseTimeMs := now.millisSince result.startedAt }

def succeed (result : PollResult) (now : Instant) : PollResult :=
  { result with success := true, error := none }.finish now

def fail (result : PollResult) (error : String) (now : Instant) : PollResult :=
  { result with success := false, error := some error }.finish now

/-- The result of an attempt that no adapter took part in. -/
def failed (device : Device) (error : String) (now : Instant) : PollResult :=
  (start device noAdapter now).fail error now

def setMetric (result : PollResult) (name : String) (value : MetricValue) : PollResult :=
  { result with metrics := result.metrics.set name value }

/-- How many values were collected, counting every row of every table. -/
def metricsCount (result : PollResult) : Nat :=
  result.metrics.size + result.interfaces.length + result.pppoeSessions.length
    + result.natSessions.length + result.dhcpLeases.length

/-- The tables of sessions and leases that have rows, one batch each. -/
def sessionBatches (result : PollResult) : List SessionBatch :=
  [.pppoe result.pppoeSessions, .nat result.natSessions, .dhcp result.dhcpLeases].filter
    fun batch => !batch.isEmpty

end PollResult

end RouterPoll
