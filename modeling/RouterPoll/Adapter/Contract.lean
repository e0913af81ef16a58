import RouterPoll.Poll.Error

/-!
# Adapters

An adapter polls devices over one protocol. Whatever it can observe besides the device is the value of a type of *surroundings*, which it may also change: the remote side, the clock, and whether the poll has been called off. So a whole poll is a function, and a remote side that is described can stand in for one that is reached over a network.
-/

namespace RouterPoll

/-- What every adapter can see around it. -/
class Surroundings (ε : Type) where
  isCancelled : ε → Bool
  now : ε → Instant

/-- A result at the end of its poll: it succeeds, unless the poll was called off meanwhile. -/
def PollResult.conclude [Surroundings ε] (result : PollResult) (env : ε) : PollResult :=
  if Surroundings.isCancelled env then
    result.fail PollError.cancelled.message (Surroundings.now env)
  else result.succeed (Surroundings.now env)

/-- How an attempt to poll ended: with a result, without a session, in a crash of the adapter, or not before it is called off. -/
inductive Attempt where
  | answered (result : PollResult)
  | refused (failure : SessionFailure)
  | crashed
  | stalled
  deriving DecidableEq

/-- What an adapter needs of a transport, where a capability does not say otherwise. -/
structure TransportSettings where
  timeoutMs : Nat
  retries : Nat
  retryDelayMs : Nat
  deriving DecidableEq, Repr

namespace TransportSettings

def default : TransportSettings := ⟨30000, 3, 500⟩

/-- The timeout for a capability in milliseconds. -/
def timeoutFor (settings : TransportSettings) : Option Nat → Nat
  | some seconds => seconds * 1000
  | none => settings.timeoutMs

end TransportSettings

/-- A protocol adapter. Whether it can handle a device is said without any exchange, and has no answer when the adapter crashes over it. -/
structure Adapter (ε : Type) where
  name : String
  method : Method
  canHandle : Device → Option Bool
  poll : Device → ε → Attempt × ε
  checkHealth : Device → ε → Except PollError Unit × ε
  supportedMetrics : List String

/-- Whether an entry of a method order means this adapter, by its name or its method. -/
def Adapter.answersTo (adapter : Adapter ε) (entry : String) : Bool :=
  adapter.name == entry || adapter.method.text == entry

end RouterPoll
