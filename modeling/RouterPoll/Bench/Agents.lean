import RouterPoll.Bench.Brief
import RouterPoll.Net.Address
import RouterPoll.Snmp.Agent

/-!
# Agents by their descriptions

The objects, detours and faults of an agent, as they are described for a trial. Objects are given one by one, or as columns of rows whose texts differ in their number only.
-/

namespace RouterPoll

namespace Brief

open Snmp (Oid Value Binding Agent Fault)

def oid? (text : String) : Option Oid := (text.toList.splitOn '.').mapM Text.digits?

def oid (spec : Json) (key : String) : Described Oid :=
  orMeaningless (oid? (text spec key))

def addressValue? (text : String) : Option Value := do
  match ← Address.parse? text with
  | .v4 a b c d => some (.ipAddress a b c d)
  | .v6 _ => none

def objectValue? (type : String) (value : Json) : Option Value :=
  match type, value with
  | "int", .number (.whole value) => some (.integer value)
  | "str", value => value.text?.map fun text => .octets text.toUTF8.toList
  | "hex", value => (bytes? value).map .octets
  | "oid", value => (value.text?.bind oid?).map .objectId
  | "ip", value => value.text?.bind addressValue?
  | "counter32", value => (nat? value).map .counter32
  | "gauge32", value => (nat? value).map .gauge32
  | "timeticks", value => (nat? value).map .timeTicks
  | "counter64", value => (nat? value).map .counter64
  | "opaque", value => (bytes? value).map .wrapped
  | "null", _ => some .null
  | "nosuchobject", _ => some .noSuchObject
  | "nosuchinstance", _ => some .noSuchInstance
  | "endofmib", _ => some .endOfMib
  | _, _ => none

def binding (spec : Json) : Described Binding := do
  return ⟨← oid spec "oid",
    ← orMeaningless (objectValue? (text spec "type") (part spec "value"))⟩

/-- The value of a row of a column. -/
def indexed (index : Nat) : Json → Json
  | .string pattern => .string (numbered pattern index)
  | value => value

def column (spec : Json) : Described (List Binding) := do
  let name ← oid spec "column"
  (List.range (nat spec "count" 0)).mapM fun offset => do
    let index := nat spec "from" 0 + offset
    let value := indexed index (part spec "value")
    return ⟨name ++ [index], ← orMeaningless (objectValue? (text spec "type") value)⟩

def detour : Json → Described (Oid × Oid)
  | .array [.string left, .string right] => do
    return (← orMeaningless (oid? left), ← orMeaningless (oid? right))
  | _ => .error .meaningless

def fault (spec : Json) : Described Fault := do
  let kind ← match text spec "kind" with
    | "drop" => pure .drop
    | "garbage" => pure (.faulty "ASN.1 wrong type")
    | "community" => pure (.faulty "Community string mismatch")
    | "reqid" => pure (.faulty "Request ID mismatch")
    | "cancel" => pure .cancel
    | "cancel_later" => pure .cancelLater
    | _ => throw .meaningless
  return ⟨← oid spec "oid", kind, (spec.field? "times").bind nat?⟩

def faults (spec : Json) : Described (List Fault) :=
  (items spec "faults").mapM fault

/-- An agent; of several objects with one name the last one counts. -/
def agent (isV1 : Bool) (spec : Json) : Described Agent := do
  let singles ← (items spec "mib").mapM binding
  let columns ← (items spec "tables").mapM column
  let objects := (singles ++ columns.flatten).foldl
    (fun objects object => Agent.insertObject object objects) []
  let detours ← (items spec "next").mapM detour
  return { objects, detours, isV1 }

end Brief

end RouterPoll
