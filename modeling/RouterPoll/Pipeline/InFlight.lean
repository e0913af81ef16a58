import RouterPoll.Net.Uuid

/-!
# Devices in flight

The devices whose poll is under way, from the moment they are admitted until their result has been written. A device in flight is not admitted again, so no device has two polls at once.
-/

namespace RouterPoll

/-- Ids in the order of admission, each once. -/
structure InFlight where
  ids : List Uuid
  deriving DecidableEq

namespace InFlight

def empty : InFlight := ⟨[]⟩

def contains (inFlight : InFlight) (id : Uuid) : Bool := inFlight.ids.contains id

def size (inFlight : InFlight) : Nat := inFlight.ids.length

/-- The set with one more device, unless the device is in it already. -/
def claim? (inFlight : InFlight) (id : Uuid) : Option InFlight :=
  if inFlight.contains id then none else some ⟨inFlight.ids ++ [id]⟩

/-- The set without a device, whether it was in it or not. -/
def release (inFlight : InFlight) (id : Uuid) : InFlight := ⟨inFlight.ids.erase id⟩

end InFlight

end RouterPoll
