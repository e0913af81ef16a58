import RouterPoll.Adapter.Script
import RouterPoll.Adapter.Standard
import RouterPoll.Store.Backend

/-!
# Starting up

What a poller has before its first pass: the condition of its store, the devices it was seeded with, those that ask to be polled more often than there are passes, and the adapters through which each device would be polled. Nothing is sent to any device.
-/

namespace RouterPoll

namespace Startup

variable {σ : Type} [Store σ]

/-- The store with devices put in, and a line for each one that it refuses. -/
def seed : List Device → σ → List String × σ
  | [], store => ([], store)
  | device :: rest, store =>
    match Store.upsertDevice store device with
    | .ok store => seed rest store
    | .error error =>
      let (lines, store) := seed rest store
      (("failed to seed device " ++ device.name ++ ": " ++ error.message) :: lines, store)

def healthLine (health : StoreHealth) : String :=
  let details := health.metadata.map fun (name, value) => name ++ " " ++ value
  "storage: " ++ health.message ++ " (" ++ String.intercalate ", " details ++ ")"

def outpacingLine (settings : PollerSettings) (device : Device) : String :=
  device.name ++ " polls every " ++ Text.natText device.pollingInterval
    ++ "s, not longer than the " ++ Text.natText settings.tickIntervalSecs
    ++ "s tick; it will be polled less often"

/-- The standard adapters over links that stay silent. -/
def adapters (settings : PollerSettings) : Registry Rehearsal :=
  .standard .silent .silent settings.transport

def candidatesLine (settings : PollerSettings) (device : Device) : String :=
  match (adapters settings).selectOrdered device with
  | some (first :: rest) =>
    device.name ++ ": " ++ String.intercalate ", " ((first :: rest).map (·.name))
  | _ => device.name ++ ": " ++ (PollError.noSuitableAdapter device.name).message

/-- All lines for settings and the store they ask for. -/
def lines (settings : Settings) (store : σ) : Except StorageError (List String) := do
  let health ← Store.health store
  let (refusals, _) := seed settings.devices store
  return healthLine health :: refusals
    ++ ["seeded " ++ Text.natText settings.devices.length ++ " device(s)"]
    ++ settings.outpacing.map (outpacingLine settings.poller)
    ++ settings.devices.map (candidatesLine settings.poller)

end Startup

end RouterPoll
