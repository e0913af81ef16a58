import RouterPoll.Adapter.Contract
import RouterPoll.Settings.Environment

/-!
# Settings

How the poller is tuned, where it keeps what it collects, and the devices it knows from the start. Some settings may be overridden by the environment. Limits and times that have to be positive are at least one, whatever they are set to.
-/

namespace RouterPoll

/-- The tuning of the poller. -/
structure PollerSettings where
  workerCount : Nat
  concurrentPolls : Nat
  tickIntervalSecs : Nat
  timeoutSecs : Nat
  retryAttempts : Nat
  retryDelayMs : Nat
  failureThreshold : Nat
  resultQueueCapacity : Option Nat
  deriving DecidableEq, Repr

namespace PollerSettings

def default : PollerSettings where
  workerCount := 10
  concurrentPolls := 50
  tickIntervalSecs := 30
  timeoutSecs := 30
  retryAttempts := 3
  retryDelayMs := 500
  failureThreshold := 3
  resultQueueCapacity := none

/-- The time between two passes in seconds. -/
def tickInterval (settings : PollerSettings) : Nat := max settings.tickIntervalSecs 1

/-- How many polls may be in flight at once. -/
def admissionLimit (settings : PollerSettings) : Nat := max settings.concurrentPolls 1

/-- How many results may wait; as many as polls may run where nothing is set. -/
def resultCapacity (settings : PollerSettings) : Nat :=
  max (settings.resultQueueCapacity.getD settings.concurrentPolls) 1

def transport (settings : PollerSettings) : TransportSettings :=
  ⟨settings.timeoutSecs * 1000, settings.retryAttempts, settings.retryDelayMs⟩

/-- The settings where the environment has the last word. -/
def override (settings : PollerSettings) (environment : Environment) : PollerSettings :=
  { settings with
    workerCount := environment.workerCount?.getD settings.workerCount
    concurrentPolls := environment.concurrentPolls?.getD settings.concurrentPolls
    tickIntervalSecs := environment.tickInterval?.getD settings.tickIntervalSecs
    timeoutSecs := environment.timeout?.getD settings.timeoutSecs
    retryAttempts := environment.retryAttempts?.getD settings.retryAttempts }

end PollerSettings

/-- Where what is collected is kept: in memory, or in a database file. -/
inductive StorageSettings where
  | memory
  | sqlite (path : String)
  deriving DecidableEq, Repr

namespace StorageSettings

def defaultPath : String := "./ispmon.db"

def default : StorageSettings := .sqlite defaultPath

end StorageSettings

structure Settings where
  poller : PollerSettings
  storage : Option StorageSettings
  devices : List Device
  deriving DecidableEq

/-- The devices whose interval is no longer than the time between passes, so that they are polled less often than they ask for. -/
def Settings.outpacing (settings : Settings) : List Device :=
  settings.devices.filter fun device => device.pollingInterval ≤ settings.poller.tickInterval

end RouterPoll
