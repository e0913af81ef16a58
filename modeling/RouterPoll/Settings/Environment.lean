import RouterPoll.Text.Numeral

/-!
# Environment

The numbers that environment variables may give: sizes of the pool, times, and the polling interval of devices that have none of their own. A variable that holds no number of its width counts as unset.
-/

namespace RouterPoll

/-- Variables by name. -/
structure Environment where
  entries : List (String × String)
  deriving DecidableEq, Repr

namespace Environment

def empty : Environment := ⟨[]⟩

/-- The names of all variables that are looked at. -/
def names : List String := [
  "POLLER_WORKERS", "POLLER_CONCURRENT", "POLLER_TICK", "POLLER_TIMEOUT", "POLLER_RETRY",
  "POLLER_INTERVAL"]

/-- The number in a variable, if it is below a limit. -/
def number? (environment : Environment) (limit : Nat) (name : String) : Option Nat :=
  (environment.entries.lookup name).bind fun text => Text.unsigned? limit text.toList

def workerCount? (environment : Environment) : Option Nat :=
  environment.number? Text.limit64 "POLLER_WORKERS"

def concurrentPolls? (environment : Environment) : Option Nat :=
  environment.number? Text.limit64 "POLLER_CONCURRENT"

def tickInterval? (environment : Environment) : Option Nat :=
  environment.number? Text.limit64 "POLLER_TICK"

def timeout? (environment : Environment) : Option Nat :=
  environment.number? Text.limit64 "POLLER_TIMEOUT"

def retryAttempts? (environment : Environment) : Option Nat :=
  environment.number? Text.limit32 "POLLER_RETRY"

/-- The polling interval in seconds where a device gives none; never zero. -/
def defaultInterval (environment : Environment) : Nat :=
  ((environment.number? Text.limit32 "POLLER_INTERVAL").filter (0 < ·)).getD 300

end Environment

end RouterPoll
