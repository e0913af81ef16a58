import RouterPoll.Proofs.Device.Description

/-!
# Descriptions and secrets

What remains of a device when its secrets are taken out: a secret that is always there, or whose presence is no secret, is replaced by an empty one, and the others are removed. The description of a device is that of what remains, and from the description everything that remains can be told. So two descriptions differ exactly where the devices differ in something that is no secret.
-/

namespace RouterPoll

open Description (Tells FieldsTell)

/-! ### Without the secrets -/

def Secret.blank : Secret := ⟨""⟩

def SnmpCredentials.conceal (credentials : SnmpCredentials) : SnmpCredentials :=
  { credentials with authPassword := none, privPassword := none }

def SnmpCapability.conceal (capability : SnmpCapability) : SnmpCapability :=
  { capability with
    community := capability.community.map fun _ => .blank
    v3 := capability.v3.map SnmpCredentials.conceal }

def ApiCapability.conceal (capability : ApiCapability) : ApiCapability :=
  { capability with password := .blank }

def SshCapability.conceal (capability : SshCapability) : SshCapability :=
  { capability with password := none, privateKey := none }

def CapabilitySet.conceal (set : CapabilitySet) : CapabilitySet :=
  { set with
    snmp := set.snmp.map SnmpCapability.conceal
    api := set.api.map ApiCapability.conceal
    ssh := set.ssh.map SshCapability.conceal }

def Device.conceal (device : Device) : Device :=
  { device with capabilities := device.capabilities.map CapabilitySet.conceal }

/-! ### Secrets do not show -/

theorem Description.optional_map {α β : Type} {describe : β → String} {change : α → β} {other : α → String}
    (hsame : ∀ value, describe (change value) = other value) (value : Option α) :
    optional describe (value.map change) = optional other value := by
  cases value with
  | none => rfl
  | some value => exact congrArg (fun text => "Some(" ++ text ++ ")") (hsame value)

@[simp] theorem SnmpCredentials.describe_conceal (credentials : SnmpCredentials) :
    credentials.conceal.describe = credentials.describe := rfl

@[simp] theorem SnmpCapability.describe_conceal (capability : SnmpCapability) :
    capability.conceal.describe = capability.describe := by
  simp only [describe, conceal]
  rw [Description.optional_map fun _ => rfl, Description.optional_map SnmpCredentials.describe_conceal]

@[simp] theorem ApiCapability.describe_conceal (capability : ApiCapability) :
    capability.conceal.describe = capability.describe := rfl

@[simp] theorem SshCapability.describe_conceal (capability : SshCapability) :
    capability.conceal.describe = capability.describe := rfl

@[simp] theorem CapabilitySet.describe_conceal (set : CapabilitySet) : set.conceal.describe = set.describe := by
  simp only [describe, conceal]
  rw [Description.optional_map SnmpCapability.describe_conceal, Description.optional_map ApiCapability.describe_conceal,
    Description.optional_map SshCapability.describe_conceal]

@[simp] theorem Device.describe_conceal (device : Device) : device.conceal.describe = device.describe := by
  simp only [describe, conceal]
  rw [Description.optional_map CapabilitySet.describe_conceal]

/-! ### Everything else does -/

theorem SnmpVersion.tells : Tells SnmpVersion.describe id := by
  refine .word (fun version => Description.forall_mem_marks.2 (by cases version <;> decide)) fun left right hsame => ?_
  cases left <;> cases right <;> first | rfl | exact absurd hsame (by decide)

theorem SnmpCredentials.tells : Tells SnmpCredentials.describe SnmpCredentials.conceal := by
  have hfields := FieldsTell.cons "username" (Tells.quoted.part SnmpCredentials.username)
    (.cons "auth_protocol" (Tells.quoted.optional.part SnmpCredentials.authProtocol)
      (.cons "priv_protocol" (Tells.quoted.optional.part SnmpCredentials.privProtocol) .nil))
  refine (hfields.record "SnmpV3Credentials" (by simp) true).weaken fun left right hview => ?_
  simpa [conceal] using hview

theorem SnmpCapability.tells : Tells SnmpCapability.describe SnmpCapability.conceal := by
  have hfields := FieldsTell.cons "enabled" (Tells.flag.part SnmpCapability.enabled)
    (.cons "version" (SnmpVersion.tells.part SnmpCapability.version)
      (.cons "community" ((Tells.fixed Description.redacted Secret.blank).optional.part SnmpCapability.community)
        (.cons "port" (Tells.natText.part SnmpCapability.port)
          (.cons "timeout_secs" (Tells.natText.optional.part SnmpCapability.timeoutSecs)
            (.cons "retries" (Tells.natText.optional.part SnmpCapability.retries)
              (.cons "v3" (SnmpCredentials.tells.optional.part SnmpCapability.v3) .nil))))))
  refine (hfields.record "SnmpCapability" (by simp) false).weaken fun left right hview => ?_
  simpa [conceal] using hview

theorem ApiCapability.tells : Tells ApiCapability.describe ApiCapability.conceal := by
  have hfields := FieldsTell.cons "enabled" (Tells.flag.part ApiCapability.enabled)
    (.cons "kind" (Tells.quoted.part ApiCapability.kind)
      (.cons "endpoint" (Tells.quoted.optional.part ApiCapability.endpoint)
        (.cons "port" (Tells.natText.optional.part ApiCapability.port)
          (.cons "username" (Tells.quoted.part ApiCapability.username)
            (.cons "password" (Tells.fixed Description.redacted Secret.blank)
              (.cons "use_tls" (Tells.flag.part ApiCapability.useTls)
                (.cons "verify_cert" (Tells.flag.part ApiCapability.verifyCert)
                  (.cons "timeout_secs" (Tells.natText.optional.part ApiCapability.timeoutSecs) .nil))))))))
  refine (hfields.record "ApiCapability" (by simp) false).weaken fun left right hview => ?_
  simpa [conceal] using hview

theorem SshCapability.tells : Tells SshCapability.describe SshCapability.conceal := by
  have hfields := FieldsTell.cons "enabled" (Tells.flag.part SshCapability.enabled)
    (.cons "host" (Tells.quoted.optional.part SshCapability.host)
      (.cons "port" (Tells.natText.part SshCapability.port)
        (.cons "username" (Tells.quoted.part SshCapability.username)
          (.cons "timeout_secs" (Tells.natText.optional.part SshCapability.timeoutSecs) .nil))))
  refine (hfields.record "SshCapability" (by simp) true).weaken fun left right hview => ?_
  simpa [conceal] using hview

theorem CapabilitySet.tells : Tells CapabilitySet.describe CapabilitySet.conceal := by
  have hfields := FieldsTell.cons "snmp" (SnmpCapability.tells.optional.part CapabilitySet.snmp)
    (.cons "api" (ApiCapability.tells.optional.part CapabilitySet.api)
      (.cons "ssh" (SshCapability.tells.optional.part CapabilitySet.ssh)
        (.cons "preferred_method" (Tells.quoted.optional.part CapabilitySet.preferredMethod)
          (.cons "fallback_order" ((Tells.quoted.list Description.opens_quoted).part CapabilitySet.fallbackOrder)
            .nil))))
  refine (hfields.record "CapabilitySet" (by simp) false).weaken fun left right hview => ?_
  simpa [conceal] using hview

theorem Role.tells : Tells Role.describe id := by
  have hfields := FieldsTell.cons "code" (Tells.quoted.part Role.code)
    (.cons "name" (Tells.quoted.optional.part Role.name)
      (.cons "priority" (Tells.intText.part Role.priority)
        (.cons "is_primary" (Tells.flag.part Role.isPrimary) .nil)))
  refine (hfields.record "RoleAssignment" (by simp) false).weaken fun left right hview => ?_
  cases left
  cases right
  simpa using hview

theorem Role.opens : Description.Opens Role.describe :=
  Description.opens_record "RoleAssignment" rfl (by decide) (by simp) false

theorem DeviceStatus.tells : Tells DeviceStatus.describe id := by
  refine .word (fun status => Description.forall_mem_marks.2 (by cases status <;> decide)) fun left right hsame => ?_
  cases left <;> cases right <;> first | rfl | exact absurd hsame (by decide)

def Device.unpolled (device : Device) : Device := { device with lastPolledAt := none }

theorem Device.tells : Tells Device.describe fun device =>
    (device.conceal.unpolled, device.lastPolledAt.map Instant.text) := by
  have hfields := FieldsTell.cons "id" (Tells.uuid.part Device.id)
    (.cons "tenant_id" (Tells.uuid.part Device.tenantId)
      (.cons "name" (Tells.quoted.part Device.name)
        (.cons "management_ip" (Tells.address.part Device.managementIp)
          (.cons "vendor" (Tells.quoted.optional.part Device.vendor)
            (.cons "status" (DeviceStatus.tells.part Device.status)
              (.cons "polling_enabled" (Tells.flag.part Device.pollingEnabled)
                (.cons "polling_interval_secs" (Tells.natText.part Device.pollingInterval)
                  (.cons "last_polled_at" (Tells.instant.optional.part Device.lastPolledAt)
                    (.cons "capabilities" (CapabilitySet.tells.optional.part Device.capabilities)
                      (.cons "roles" ((Role.tells.list Role.opens).part Device.roles) .nil))))))))))
  refine (hfields.record "Device" (by simp) false).weaken fun left right hview => ?_
  simp only [Prod.mk.injEq, Option.map_id, List.map_id, id_eq, and_true] at hview
  obtain ⟨hid, htenant, hname, haddress, hvendor, hstatus, henabled, hinterval, hpolled, hcapabilities,
    hroles⟩ := hview
  simp only [conceal, unpolled, hid, htenant, hname, haddress, hvendor, hstatus, henabled, hinterval, hpolled,
    hcapabilities, hroles]

/-- Whatever differs in nothing but secrets is described alike. Everything else can be told from the description, the time of the last poll as it is written there. -/
theorem describe_tells_all_but_secrets :
    (∀ left right : CapabilitySet, left.describe = right.describe ↔ left.conceal = right.conceal)
    ∧ ∀ left right : Device, (left.conceal = right.conceal → left.describe = right.describe)
      ∧ (left.describe = right.describe → left.conceal.unpolled = right.conceal.unpolled
        ∧ left.lastPolledAt.map Instant.text = right.lastPolledAt.map Instant.text) := by
  constructor
  · intro left right
    refine ⟨CapabilitySet.tells.view_eq, fun hconceal => ?_⟩
    rw [← left.describe_conceal, hconceal, right.describe_conceal]
  · intro left right
    refine ⟨fun hconceal => ?_, fun hsame => Prod.mk.inj (Device.tells.view_eq hsame)⟩
    rw [← left.describe_conceal, hconceal, right.describe_conceal]

/-- The capabilities of a router with one password for its interface and another one, if any, for the rest. -/
def CapabilitySet.edge (community other : Option Secret) (password : Secret) : CapabilitySet where
  snmp := some ⟨true, .v3, community, 161, some 5, none, some ⟨"monitor", some "SHA", other, some "AES", other⟩⟩
  api := some ⟨true, "routeros", none, some 443, "admin", password, true, false, none⟩
  ssh := some ⟨false, none, 22, "admin", other, other, none⟩
  preferredMethod := some "snmp"
  fallbackOrder := ["api"]

def Device.edge (community other : Option Secret) (password : Secret) : Device where
  id := ⟨1⟩
  tenantId := ⟨2⟩
  name := "edge"
  managementIp := .v4 192 0 2 1
  vendor := some "MikroTik"
  status := .active
  pollingEnabled := true
  pollingInterval := 300
  lastPolledAt := some ⟨1000, 0⟩
  capabilities := some (.edge community other password)
  roles := [⟨"router", none, 1, true⟩]

/-- Other secrets, also where there were none, do not show; that there is no community does. -/
theorem describe_tells_all_but_secrets_edge :
    Device.edge (some ⟨"public"⟩) none ⟨"first"⟩ ≠ .edge (some ⟨"private"⟩) (some ⟨"second"⟩) ⟨"third"⟩
    ∧ (Device.edge (some ⟨"public"⟩) none ⟨"first"⟩).describe
      = (Device.edge (some ⟨"private"⟩) (some ⟨"second"⟩) ⟨"third"⟩).describe
    ∧ (CapabilitySet.edge none none ⟨"first"⟩).describe
      ≠ (CapabilitySet.edge (some ⟨"public"⟩) none ⟨"first"⟩).describe := by
  obtain ⟨hsets, hdevices⟩ := describe_tells_all_but_secrets
  refine ⟨by decide, (hdevices _ _).1 rfl, fun hsame => ?_⟩
  exact absurd ((hsets _ _).1 hsame) (by decide)

end RouterPoll
