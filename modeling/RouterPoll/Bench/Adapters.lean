import RouterPoll.Adapter.Script
import RouterPoll.Bench.Brief

/-!
# Described scripts

The scripts of adapters, as they are described for a trial.
-/

namespace RouterPoll

namespace Brief

open Script (Act Acts Handling Harvest)

def harvest (spec : Json) : Described Harvest := do
  let entries ← (fields spec "metrics").mapM fun (name, value) => do
    return (name, ← metric value)
  return {
    metrics := Metrics.empty.setAll entries
    interfaces := ← (items spec "interfaces").mapM (decode InterfaceStatus.read)
    pppoeSessions := ← (items spec "pppoe").mapM (decode PppoeSession.read)
    natSessions := ← (items spec "nat").mapM (decode NatSession.read)
    dhcpLeases := ← (items spec "dhcp").mapM (decode DhcpLease.read) }

def act (spec : Json) : Described Act := do
  match (text? spec "kind").getD "success" with
  | "success" => return .success (← harvest spec)
  | "fail" => return .failure (text? spec "message")
  | "session" => return .refusal (← pollError (part spec "error"))
  | "panic" => return .crash
  | "hang" => return .hang
  | "cancel" => return .cancel (text spec "message")
  | _ => throw .meaningless

/-- One act or a list of them; where nothing is said, a success that brings nothing back. -/
def acts : Json → Described Acts
  | .null => .ok ⟨.success default, []⟩
  | .array [] => .error .meaningless
  | .array (first :: rest) => do return ⟨← act first, ← rest.mapM act⟩
  | spec => do return ⟨← act spec, []⟩

def handling : Json → Handling
  | .bool answer => .always answer
  | .array names => .named (names.filterMap Json.text?)
  | .string _ => .crash
  | _ => .always true

def script (spec : Json) : Described Script := do
  let health ←
    if isGiven spec "health" then (pollError (part spec "health")).map some else pure none
  return {
    name := text spec "name"
    method := ← decodeAt Method.read spec "method"
    handling := handling (part spec "handles")
    acts := ← acts (part spec "outcome")
    actsByDevice := ← (fields spec "by_device").mapM fun (name, spec) => do
      return (name, ← acts spec)
    health
    supportedMetrics := texts spec "metrics" }

end Brief

/-- The registry of scripts in order, and whether each was taken. -/
def Script.registry (scripts : List Script) : Registry Rehearsal × List Bool :=
  scripts.zipIdx.foldl
    (fun (registry, flags) (script, number) =>
      let (registry, isTaken) := registry.register (script.adapter number)
      (registry, flags ++ [isTaken]))
    (Registry.empty, [])

end RouterPoll
