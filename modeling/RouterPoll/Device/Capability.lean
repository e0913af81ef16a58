/-!
# Capabilities

How a device can be reached: at most one entry for each connection method, each with its own switch, address details and credentials. Secrets are a type of their own, so that whoever shows a capability has to say what becomes of them.
-/

namespace RouterPoll

/-- A text that is shown to nobody but the device it belongs to. -/
structure Secret where
  reveal : String
  deriving DecidableEq, Inhabited

inductive Method where
  | snmp
  | api
  | ssh
  deriving DecidableEq, Repr, Inhabited

def Method.text : Method → String
  | snmp => "snmp"
  | api => "api"
  | ssh => "ssh"

inductive SnmpVersion where
  | v1
  | v2c
  | v3
  deriving DecidableEq, Repr, Inhabited

def SnmpVersion.text : SnmpVersion → String
  | v1 => "v1"
  | v2c => "v2c"
  | v3 => "v3"

structure SnmpCredentials where
  username : String
  authProtocol : Option String
  authPassword : Option Secret
  privProtocol : Option String
  privPassword : Option Secret
  deriving DecidableEq, Inhabited

structure SnmpCapability where
  enabled : Bool
  version : SnmpVersion
  community : Option Secret
  port : Nat
  timeoutSecs : Option Nat
  retries : Option Nat
  v3 : Option SnmpCredentials
  deriving DecidableEq, Inhabited

structure ApiCapability where
  enabled : Bool
  kind : String
  endpoint : Option String
  port : Option Nat
  username : String
  password : Secret
  useTls : Bool
  verifyCert : Bool
  timeoutSecs : Option Nat
  deriving DecidableEq, Inhabited

structure SshCapability where
  enabled : Bool
  host : Option String
  port : Nat
  username : String
  password : Option Secret
  privateKey : Option Secret
  timeoutSecs : Option Nat
  deriving DecidableEq, Inhabited

structure CapabilitySet where
  snmp : Option SnmpCapability
  api : Option ApiCapability
  ssh : Option SshCapability
  preferredMethod : Option String
  fallbackOrder : List String
  deriving DecidableEq, Inhabited

namespace CapabilitySet

/-- No capability at all. -/
def empty : CapabilitySet := ⟨none, none, none, none, []⟩

def isEnabled (set : CapabilitySet) : Method → Bool
  | .snmp => set.snmp.any (·.enabled)
  | .api => set.api.any (·.enabled)
  | .ssh => set.ssh.any (·.enabled)

/-- The methods that are there and switched on, in a fixed order. -/
def enabledMethods (set : CapabilitySet) : List Method :=
  [Method.snmp, Method.api, Method.ssh].filter set.isEnabled

/-- The preferred entry, unless it is empty. -/
def preferred (set : CapabilitySet) : List String :=
  (set.preferredMethod.filter (· != "")).toList

/-- The entries to be tried, in order. An explicit order stands as it is; otherwise the preferred entry comes first and the other enabled methods follow. -/
def methodOrder (set : CapabilitySet) : List String :=
  if set.fallbackOrder.isEmpty then
    set.preferred
      ++ (set.enabledMethods.map Method.text).filter fun entry => !set.preferred.contains entry
  else set.fallbackOrder

end CapabilitySet

end RouterPoll
