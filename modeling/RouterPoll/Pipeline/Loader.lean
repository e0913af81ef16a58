import RouterPoll.Store.Contract

/-!
# Loading

A store lists devices bare. Before a device is polled, its capabilities and roles are attached. Where one of them can not be had, the device keeps what it has and is polled all the same.
-/

namespace RouterPoll

variable {σ : Type} [Store σ]

def Device.withCapabilities (device : Device) (store : σ) : Device :=
  match Store.capabilities? store device.id with
  | .ok capabilities => { device with capabilities }
  | .error _ => device

def Device.withRoles (device : Device) (store : σ) : Device :=
  match Store.roles store device.id with
  | .ok roles => { device with roles := Role.byPriority roles }
  | .error _ => device

/-- The device with what a store knows about it beyond its description. -/
def Device.loaded (device : Device) (store : σ) : Device :=
  (device.withCapabilities store).withRoles store

end RouterPoll
