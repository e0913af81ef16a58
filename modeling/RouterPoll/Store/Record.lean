import RouterPoll.Poll.Result

/-!
# Records

What a store keeps of a poll for later: one history record for every attempt, and for a successful one a point of system metrics. A point has the metrics that are asked for most in fields of their own, beside the whole bag.
-/

namespace RouterPoll

/-- What is remembered of one attempt. -/
structure HistoryRecord where
  tenantId : Uuid
  deviceId : Uuid
  startedAt : Instant
  completedAt : Instant
  adapter : String
  success : Bool
  error : Option String
  metricsCollected : Nat
  responseTimeMs : Nat
  deriving DecidableEq

/-- The record of a result; the number of metrics has 32 bits. -/
def HistoryRecord.ofResult (result : PollResult) : HistoryRecord where
  tenantId := result.tenantId
  deviceId := result.deviceId
  startedAt := result.startedAt
  completedAt := result.completedAt
  adapter := result.adapter
  success := result.success
  error := result.error
  metricsCollected := min result.metricsCount (Text.limit32 - 1)
  responseTimeMs := result.responseTimeMs

/-- The metrics of a device at one time. -/
structure MetricsPoint where
  tenantId : Uuid
  deviceId : Uuid
  timestamp : Instant
  adapter : String
  cpuPercent : Option Float
  memoryPercent : Option Float
  uptimeSeconds : Option Int
  temperatureCelsius : Option Float
  metrics : Metrics
  interfaces : List InterfaceStatus
  deriving DecidableEq

/-- The point of a result; a sensor that reports no positive temperature counts as absent. -/
def MetricsPoint.ofResult (tenantId deviceId : Uuid) (timestamp : Instant) (result : PollResult) :
    MetricsPoint :=
  let float (name : String) : Option Float := (result.metrics.get? name).bind MetricValue.asFloat?
  { tenantId, deviceId, timestamp
    adapter := result.adapter
    cpuPercent := float Metrics.cpuPercent
    memoryPercent := float Metrics.memoryPercent
    uptimeSeconds := (result.metrics.get? Metrics.uptimeSeconds).bind MetricValue.asInteger?
    temperatureCelsius := (float Metrics.temperatureCelsius).filter fun degrees => 0.0 < degrees
    metrics := result.metrics
    interfaces := result.interfaces }

end RouterPoll
