import RouterPoll.Bench.Brief
import RouterPoll.RouterOs.Service

/-!
# Services by their descriptions

The routes of a router's web service, as they are described for a trial. A body is given by its bytes, its text or its document, or as a list of so many rows that differ in their number only.
-/

namespace RouterPoll

namespace Brief

open RouterOs (Treatment Service)

/-- A list of rows made after one pattern. -/
def rowsText (spec : Json) : String :=
  let pattern := (part spec "row").sorted.compact
  let rows := (List.range (nat spec "count" 0)).map (numbered pattern)
  "[" ++ String.intercalate "," rows ++ "]"

def body (route : Json) : List UInt8 :=
  let json := route.field? "json"
  match bytes? (part route "hex"), text? route "text", json, route.field? "repeat" with
  | some bytes, _, _, _ => bytes
  | none, some text, _, _ => text.toUTF8.toList
  | none, none, some value, _ => value.sorted.compact.toUTF8.toList
  | none, none, none, some rows => (rowsText rows).toUTF8.toList
  | none, none, none, none => []

def treatment (route : Json) : Treatment :=
  match text route "behavior" with
  | "hang" => .hang
  | "close" => .close
  | "cancel" => .cancel
  | _ => .answer (nat route "status" 200) (body route)

/-- The service on a port of this machine whose routes are given. -/
def service (port : Nat) (spec : Json) : Service where
  host := "127.0.0.1"
  port := port
  routes := (fields spec "routes").map fun (target, route) => (target, treatment route)

end Brief

end RouterPoll
