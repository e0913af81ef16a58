import RouterPoll.Adapter.Registry

/-!
# What workers make of polls

However a poll through the registry ends, one result goes on from it. A poll that was called off and one that failed give a result that no adapter took part in, dated from when the worker began.
-/

namespace RouterPoll

/-- The failure text of a poll in which an adapter crashed. -/
def crashText : String := "adapter panicked during poll"

/-- A failure that a worker reports itself. -/
def PollResult.reported (device : Device) (startedAt now : Instant) (error : String)
    (cancelled : Bool) : PollResult :=
  { PollResult.failed device error now with startedAt, cancelled }.finish now

/-- The result of a poll that began and ended at given times; none while it is stalled. -/
def FallbackEnd.toResult? (device : Device) (startedAt now : Instant) :
    FallbackEnd → Option PollResult
  | .settled (.ok result) => some result
  | .settled (.error .cancelled) =>
    some (.reported device startedAt now PollError.cancelled.message true)
  | .settled (.error error) => some (.reported device startedAt now error.message false)
  | .crashed => some (.reported device startedAt now crashText false)
  | .stalled => none

end RouterPoll
