import RouterPoll.Device.Basic
import RouterPoll.Text.Quoted
import RouterPoll.Time.Stamp

/-!
# Descriptions for the log

Devices and capabilities on one line, as they appear in logs. A secret that is always there, or whose presence is no secret, shows as a fixed word; the other secrets are left out, and two points at the end say that something is missing.
-/

namespace RouterPoll

namespace Description

def optional (describe : α → String) : Option α → String
  | some value => "Some(" ++ describe value ++ ")"
  | none => "None"

def list (describe : α → String) (values : List α) : String :=
  "[" ++ String.intercalate ", " (values.map describe) ++ "]"

def flag (value : Bool) : String := if value then "true" else "false"

/-- Named fields in braces after the name of their structure; an open one has more than it shows. -/
def record (name : String) (fields : List (String × String)) (isOpen : Bool) : String :=
  let shown := fields.map fun field => field.1 ++ ": " ++ field.2
  name ++ " \x7b " ++ String.intercalate ", " (shown ++ if isOpen then [".."] else []) ++ " \x7d"

def redacted : String := Text.quoted "[REDACTED]"

end Description

open Description (optional list flag record redacted)
open Text (quoted natText)

def SnmpVersion.describe : SnmpVersion → String
  | v1 => "V1"
  | v2c => "V2c"
  | v3 => "V3"

def SnmpCredentials.describe (credentials : SnmpCredentials) : String :=
  record "SnmpV3Credentials" [
    ("username", quoted credentials.username),
    ("auth_protocol", optional quoted credentials.authProtocol),
    ("priv_protocol", optional quoted credentials.privProtocol)] true

def SnmpCapability.describe (capability : SnmpCapability) : String :=
  record "SnmpCapability" [
    ("enabled", flag capability.enabled),
    ("version", capability.version.describe),
    ("community", optional (fun _ => redacted) capability.community),
    ("port", natText capability.port),
    ("timeout_secs", optional natText capability.timeoutSecs),
    ("retries", optional natText capability.retries),
    ("v3", optional SnmpCredentials.describe capability.v3)] false

def ApiCapability.describe (capability : ApiCapability) : String :=
  record "ApiCapability" [
    ("enabled", flag capability.enabled),
    ("kind", quoted capability.kind),
    ("endpoint", optional quoted capability.endpoint),
    ("port", optional natText capability.port),
    ("username", quoted capability.username),
    ("password", redacted),
    ("use_tls", flag capability.useTls),
    ("verify_cert", flag capability.verifyCert),
    ("timeout_secs", optional natText capability.timeoutSecs)] false

def SshCapability.describe (capability : SshCapability) : String :=
  record "SshCapability" [
    ("enabled", flag capability.enabled),
    ("host", optional quoted capability.host),
    ("port", natText capability.port),
    ("username", quoted capability.username),
    ("timeout_secs", optional natText capability.timeoutSecs)] true

def CapabilitySet.describe (set : CapabilitySet) : String :=
  record "CapabilitySet" [
    ("snmp", optional SnmpCapability.describe set.snmp),
    ("api", optional ApiCapability.describe set.api),
    ("ssh", optional SshCapability.describe set.ssh),
    ("preferred_method", optional quoted set.preferredMethod),
    ("fallback_order", list quoted set.fallbackOrder)] false

def DeviceStatus.describe : DeviceStatus → String
  | active => "Active"
  | inactive => "Inactive"
  | maintenance => "Maintenance"

def Role.describe (role : Role) : String :=
  record "RoleAssignment" [
    ("code", quoted role.code),
    ("name", optional quoted role.name),
    ("priority", Text.intText role.priority),
    ("is_primary", flag role.isPrimary)] false

def Device.describe (device : Device) : String :=
  record "Device" [
    ("id", device.id.text),
    ("tenant_id", device.tenantId.text),
    ("name", quoted device.name),
    ("management_ip", device.managementIp.text),
    ("vendor", optional quoted device.vendor),
    ("status", device.status.describe),
    ("polling_enabled", flag device.pollingEnabled),
    ("polling_interval_secs", natText device.pollingInterval),
    ("last_polled_at", optional Instant.text device.lastPolledAt),
    ("capabilities", optional CapabilitySet.describe device.capabilities),
    ("roles", list Role.describe device.roles)] false

end RouterPoll
