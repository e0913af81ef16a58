import RouterPoll.Device.Document
import RouterPoll.Proofs.Decode.Written

/-!
# Capabilities read from their documents

The document of a capability holds the capability, secrets in clear and fields that are not there included, as long as ports, timeouts and retries fit the words they are kept in. A field without a value is written as `null`, and none of the defaults that stand in for missing fields is used.
-/

namespace RouterPoll

open Decode (Holds FieldsHold holds_text holds_bool holds_nat16 holds_nat32 holds_nat64 holds_text? holds_nat?
  holds_orNull holds_list holds_object)

/-! ### Numbers that fit -/

structure SnmpCapability.Fits (capability : SnmpCapability) : Prop where
  port : capability.port < Text.limit16
  timeoutSecs : ∀ timeout ∈ capability.timeoutSecs, timeout < Text.limit64
  retries : ∀ retries ∈ capability.retries, retries < Text.limit32

structure ApiCapability.Fits (capability : ApiCapability) : Prop where
  port : ∀ port ∈ capability.port, port < Text.limit16
  timeoutSecs : ∀ timeout ∈ capability.timeoutSecs, timeout < Text.limit64

structure SshCapability.Fits (capability : SshCapability) : Prop where
  port : capability.port < Text.limit16
  timeoutSecs : ∀ timeout ∈ capability.timeoutSecs, timeout < Text.limit64

/-- Capabilities whose numbers fit the words they are kept in. -/
structure CapabilitySet.Fits (set : CapabilitySet) : Prop where
  snmp : ∀ capability ∈ set.snmp, capability.Fits
  api : ∀ capability ∈ set.api, capability.Fits
  ssh : ∀ capability ∈ set.ssh, capability.Fits

/-! ### Parts of capabilities -/

theorem Secret.holds (secret : Secret) : Holds Secret.read secret.document secret where
  exact := .string secret.reveal
  read _ := rfl

theorem SnmpVersion.holds (version : SnmpVersion) : Holds SnmpVersion.read (.string version.text) version where
  exact := .string version.text
  read source := by cases version <;> cases source <;> rfl

theorem Secret.holds? (value : Option Secret) :
    Holds (Decode.optional Secret.read) (Json.orNull Secret.document value) value :=
  holds_orNull (fun _ hnull => by cases hnull) fun secret _ => secret.holds

/-! ### Capabilities -/

theorem SnmpCredentials.holds (credentials : SnmpCredentials) :
    Holds SnmpCredentials.read credentials.document credentials := by
  refine holds_object rfl (by decide) ?_
  show FieldsHold _ _ (mk credentials.username credentials.authProtocol credentials.authPassword
    credentials.privProtocol credentials.privPassword)
  refine .seq (.seq (.seq (.seq (.map _ ?_) ?_) ?_) ?_) ?_
  · exact .field rfl (holds_text _)
  · exact .optional rfl (holds_text? _)
  · exact .optional rfl (Secret.holds? _)
  · exact .optional rfl (holds_text? _)
  · exact .optional rfl (Secret.holds? _)

theorem SnmpCapability.Fits.holds {capability : SnmpCapability} (hfits : capability.Fits) :
    Holds SnmpCapability.read capability.document capability := by
  refine holds_object rfl (by decide) ?_
  show FieldsHold _ _ (SnmpCapability.mk capability.enabled capability.version capability.community capability.port
    capability.timeoutSecs capability.retries capability.v3)
  refine .seq (.seq (.seq (.seq (.seq (.seq (.map _ ?_) ?_) ?_) ?_) ?_) ?_) ?_
  · exact .field rfl (holds_bool _)
  · exact .field rfl capability.version.holds
  · exact .optional rfl (Secret.holds? _)
  · exact .field rfl (holds_nat16 hfits.port)
  · exact .optional rfl (holds_nat? holds_nat64 hfits.timeoutSecs)
  · exact .optional rfl (holds_nat? holds_nat32 hfits.retries)
  · exact .optional rfl (holds_orNull (fun _ hnull => by cases hnull) fun credentials _ => credentials.holds)

theorem ApiCapability.Fits.holds {capability : ApiCapability} (hfits : capability.Fits) :
    Holds ApiCapability.read capability.document capability := by
  refine holds_object rfl (by decide) ?_
  show FieldsHold _ _ (ApiCapability.mk capability.enabled capability.kind capability.endpoint capability.port
    capability.username capability.password capability.useTls capability.verifyCert capability.timeoutSecs)
  refine .seq (.seq (.seq (.seq (.seq (.seq (.seq (.seq (.map _ ?_) ?_) ?_) ?_) ?_) ?_) ?_) ?_) ?_
  · exact .field rfl (holds_bool _)
  · exact .field rfl (holds_text _)
  · exact .optional rfl (holds_text? _)
  · exact .optional rfl (holds_nat? holds_nat16 hfits.port)
  · exact .field rfl (holds_text _)
  · exact .field rfl capability.password.holds
  · exact .field rfl (holds_bool _)
  · exact .field rfl (holds_bool _)
  · exact .optional rfl (holds_nat? holds_nat64 hfits.timeoutSecs)

theorem SshCapability.Fits.holds {capability : SshCapability} (hfits : capability.Fits) :
    Holds SshCapability.read capability.document capability := by
  refine holds_object rfl (by decide) ?_
  show FieldsHold _ _ (SshCapability.mk capability.enabled capability.host capability.port capability.username
    capability.password capability.privateKey capability.timeoutSecs)
  refine .seq (.seq (.seq (.seq (.seq (.seq (.map _ ?_) ?_) ?_) ?_) ?_) ?_) ?_
  · exact .field rfl (holds_bool _)
  · exact .optional rfl (holds_text? _)
  · exact .field rfl (holds_nat16 hfits.port)
  · exact .field rfl (holds_text _)
  · exact .optional rfl (Secret.holds? _)
  · exact .optional rfl (Secret.holds? _)
  · exact .optional rfl (holds_nat? holds_nat64 hfits.timeoutSecs)

theorem CapabilitySet.Fits.holds {set : CapabilitySet} (hfits : set.Fits) :
    Holds CapabilitySet.read set.document set := by
  refine holds_object rfl (by decide) ?_
  show FieldsHold _ _ (CapabilitySet.mk set.snmp set.api set.ssh set.preferredMethod set.fallbackOrder)
  refine .seq (.seq (.seq (.seq (.map _ ?_) ?_) ?_) ?_) ?_
  · exact .optional rfl (holds_orNull (fun _ hnull => by cases hnull) fun capability hmem => (hfits.snmp capability hmem).holds)
  · exact .optional rfl (holds_orNull (fun _ hnull => by cases hnull) fun capability hmem => (hfits.api capability hmem).holds)
  · exact .optional rfl (holds_orNull (fun _ hnull => by cases hnull) fun capability hmem => (hfits.ssh capability hmem).holds)
  · exact .optional rfl (holds_text? _)
  · exact .field rfl (holds_list fun text _ => holds_text text)

end RouterPoll
