import RouterPoll.Pipeline.Processor
import RouterPoll.Pipeline.Scheduler
import RouterPoll.Report.Poll

/-!
# Reports of the stages

Documents that show where devices are on their way through the pipeline, and what came of them.
-/

namespace RouterPoll

namespace Report

/-- A device in the work queue: its name, and by what and as what it is polled. -/
def job (device : Device) : Json := .array [
  .string device.name,
  list Json.string device.methodOrder,
  list Json.string device.roleCodes]

/-- How many devices are in flight, and whether there are none. -/
def inFlight (inFlight : InFlight) : Json :=
  .array [Json.nat inFlight.size, .bool (inFlight.size == 0)]

def answer : Answer → Json
  | .admitted count => Json.nat count
  | .taken isTaken => .bool isTaken

def tally (tally : Tally) : Json := .object [
  ("processed", Json.nat tally.processed),
  ("succeeded", Json.nat tally.succeeded),
  ("failed", Json.nat tally.failed),
  ("storage_errors", Json.nat tally.storageErrors)]

end Report

end RouterPoll
