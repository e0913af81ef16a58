import RouterPoll.Decode.Fields
import RouterPoll.Device.Basic
import RouterPoll.Time.Stamp

/-!
# Devices as documents

How devices, capabilities and roles are read from documents and written as documents, with their secrets in clear.
-/

namespace RouterPoll

open Decode (Reader Fields readBool readText readNat16 readNat32 readNat64 readInt32)
open Decode.Fields (required defaulted optional nullable)

/-! ### Reading -/

def Uuid.read : Reader Uuid := Decode.readForm "a UUID string" Uuid.parse? .badUuid

def Address.read : Reader Address := Decode.readForm "IP address" Address.parse? .badAddress

def Instant.read : Reader Instant :=
  Decode.readForm "an RFC 3339 formatted date and time string" Instant.parse? .badInstant

def Secret.read : Reader Secret := fun source node => (readText source node).map Secret.mk

def Method.read : Reader Method :=
  Decode.choice [("snmp", .snmp), ("api", .api), ("ssh", .ssh)]

def SnmpVersion.read : Reader SnmpVersion :=
  Decode.choice [("v1", .v1), ("v2c", .v2c), ("v3", .v3)]

def DeviceStatus.read : Reader DeviceStatus :=
  Decode.choice [("active", .active), ("inactive", .inactive), ("maintenance", .maintenance)]

def SnmpCredentials.read : Reader SnmpCredentials :=
  Fields.reader "SnmpV3Credentials" <|
    SnmpCredentials.mk
      <$> required "username" readText
      <*> optional "auth_protocol" readText
      <*> optional "auth_password" Secret.read
      <*> optional "priv_protocol" readText
      <*> optional "priv_password" Secret.read

def SnmpCapability.read : Reader SnmpCapability :=
  Fields.reader "SnmpCapability" <|
    SnmpCapability.mk
      <$> required "enabled" readBool
      <*> required "version" SnmpVersion.read
      <*> optional "community" Secret.read
      <*> defaulted "port" readNat16 161
      <*> optional "timeout_secs" readNat64
      <*> optional "retries" readNat32
      <*> optional "v3" SnmpCredentials.read

def ApiCapability.read : Reader ApiCapability :=
  Fields.reader "ApiCapability" <|
    ApiCapability.mk
      <$> required "enabled" readBool
      <*> required "kind" readText
      <*> optional "endpoint" readText
      <*> optional "port" readNat16
      <*> required "username" readText
      <*> required "password" Secret.read
      <*> defaulted "use_tls" readBool false
      <*> defaulted "verify_cert" readBool true
      <*> optional "timeout_secs" readNat64

def SshCapability.read : Reader SshCapability :=
  Fields.reader "SshCapability" <|
    SshCapability.mk
      <$> required "enabled" readBool
      <*> optional "host" readText
      <*> defaulted "port" readNat16 22
      <*> required "username" readText
      <*> optional "password" Secret.read
      <*> optional "private_key" Secret.read
      <*> optional "timeout_secs" readNat64

def CapabilitySet.read : Reader CapabilitySet :=
  Fields.reader "CapabilitySet" <|
    CapabilitySet.mk
      <$> optional "snmp" SnmpCapability.read
      <*> optional "api" ApiCapability.read
      <*> optional "ssh" SshCapability.read
      <*> optional "preferred_method" readText
      <*> defaulted "fallback_order" (Decode.listOf readText) []

def Role.read : Reader Role :=
  Fields.reader "RoleAssignment" <|
    Role.mk
      <$> required "code" readText
      <*> optional "name" readText
      <*> defaulted "priority" readInt32 0
      <*> defaulted "is_primary" readBool false

/-- A device; one that names no interval has the one given here. -/
def Device.read (defaultInterval : Nat) : Reader Device :=
  Fields.reader "Device" <|
    Device.mk
      <$> required "id" Uuid.read
      <*> required "tenant_id" Uuid.read
      <*> required "name" readText
      <*> required "management_ip" Address.read
      <*> nullable "vendor" readText
      <*> defaulted "status" DeviceStatus.read .active
      <*> defaulted "polling_enabled" readBool true
      <*> defaulted "polling_interval_secs" readNat32 defaultInterval
      <*> optional "last_polled_at" Instant.read
      <*> optional "capabilities" CapabilitySet.read
      <*> defaulted "roles" (Decode.listOf Role.read) []

/-! ### Writing -/

def Secret.document (secret : Secret) : Json := .string secret.reveal

def SnmpCredentials.document (credentials : SnmpCredentials) : Json := .object [
  ("username", .string credentials.username),
  ("auth_protocol", Json.orNull .string credentials.authProtocol),
  ("auth_password", Json.orNull Secret.document credentials.authPassword),
  ("priv_protocol", Json.orNull .string credentials.privProtocol),
  ("priv_password", Json.orNull Secret.document credentials.privPassword)]

def SnmpCapability.document (capability : SnmpCapability) : Json := .object [
  ("enabled", .bool capability.enabled),
  ("version", .string capability.version.text),
  ("community", Json.orNull Secret.document capability.community),
  ("port", Json.nat capability.port),
  ("timeout_secs", Json.orNull Json.nat capability.timeoutSecs),
  ("retries", Json.orNull Json.nat capability.retries),
  ("v3", Json.orNull SnmpCredentials.document capability.v3)]

def ApiCapability.document (capability : ApiCapability) : Json := .object [
  ("enabled", .bool capability.enabled),
  ("kind", .string capability.kind),
  ("endpoint", Json.orNull .string capability.endpoint),
  ("port", Json.orNull Json.nat capability.port),
  ("username", .string capability.username),
  ("password", capability.password.document),
  ("use_tls", .bool capability.useTls),
  ("verify_cert", .bool capability.verifyCert),
  ("timeout_secs", Json.orNull Json.nat capability.timeoutSecs)]

def SshCapability.document (capability : SshCapability) : Json := .object [
  ("enabled", .bool capability.enabled),
  ("host", Json.orNull .string capability.host),
  ("port", Json.nat capability.port),
  ("username", .string capability.username),
  ("password", Json.orNull Secret.document capability.password),
  ("private_key", Json.orNull Secret.document capability.privateKey),
  ("timeout_secs", Json.orNull Json.nat capability.timeoutSecs)]

def CapabilitySet.document (set : CapabilitySet) : Json := .object [
  ("snmp", Json.orNull SnmpCapability.document set.snmp),
  ("api", Json.orNull ApiCapability.document set.api),
  ("ssh", Json.orNull SshCapability.document set.ssh),
  ("preferred_method", Json.orNull .string set.preferredMethod),
  ("fallback_order", .array (set.fallbackOrder.map .string))]

def Role.document (role : Role) : Json := .object [
  ("code", .string role.code),
  ("name", Json.orNull .string role.name),
  ("priority", Json.whole role.priority),
  ("is_primary", .bool role.isPrimary)]

def Instant.document (instant : Instant) : Json := .string instant.text

def Device.document (device : Device) : Json := .object [
  ("id", .string device.id.text),
  ("tenant_id", .string device.tenantId.text),
  ("name", .string device.name),
  ("management_ip", .string device.managementIp.text),
  ("vendor", Json.orNull .string device.vendor),
  ("status", .string device.status.text),
  ("polling_enabled", .bool device.pollingEnabled),
  ("polling_interval_secs", Json.nat device.pollingInterval),
  ("last_polled_at", Json.orNull Instant.document device.lastPolledAt),
  ("capabilities", Json.orNull CapabilitySet.document device.capabilities),
  ("roles", .array (device.roles.map Role.document))]

end RouterPoll
