import RouterPoll.Poll.Result

/-!
# Why a poll failed

The causes for which a device can not be polled, and the wording of each. Some lie in the configuration and last until it is changed; others may be gone at the next attempt.
-/

namespace RouterPoll

inductive PollError where
  | noSuitableAdapter (device : String)
  | unsupportedVersion (protocol version : String)
  | notConfigured (adapter reason : String)
  | connect (target reason : String)
  | timeout (operation : String) (seconds : Nat)
  | auth (target : String)
  | protocol (reason : String)
  | allAdaptersFailed (attempted : Nat) (lastError : String)
  | cancelled
  deriving DecidableEq, Inhabited

namespace PollError

def message : PollError → String
  | .noSuitableAdapter device => "no suitable adapter for device " ++ device
  | .unsupportedVersion system version => "unsupported " ++ system ++ " version: " ++ version
  | .notConfigured adapter reason => adapter ++ " not configured: " ++ reason
  | .connect target reason => "connection to " ++ target ++ " failed: " ++ reason
  | .timeout operation seconds => operation ++ " timed out after " ++ Text.natText seconds ++ "s"
  | .auth target => "authentication rejected by " ++ target
  | .protocol reason => "protocol error: " ++ reason
  | .allAdaptersFailed attempted lastError =>
    "all " ++ Text.natText attempted ++ " adapters failed, last error: " ++ lastError
  | .cancelled => "poll cancelled"

/-- Whether the cause lies in the configuration and stays until that is changed. -/
def isConfiguration : PollError → Bool
  | noSuitableAdapter _ => true
  | unsupportedVersion _ _ => true
  | notConfigured _ _ => true
  | _ => false

/-- Whether the next attempt may go better. -/
def isTransient : PollError → Bool
  | connect _ _ => true
  | timeout _ _ => true
  | auth _ => true
  | .protocol _ => true
  | _ => false

end PollError

/-- A session that could not be opened: the cause, and a result that failed with its wording. -/
structure SessionFailure where
  error : PollError
  result : PollResult
  deriving DecidableEq

/-- The failure of an attempt for a cause. -/
def SessionFailure.of (error : PollError) (result : PollResult) (now : Instant) : SessionFailure :=
  ⟨error, result.fail error.message now⟩

end RouterPoll
