/-!
# Roles

A role names a duty a router has, such as handing out addresses. Some roles ask for the tables of sessions and leases to be collected, and some ask for further kinds of metrics.
-/

namespace RouterPoll

/-- A role a device plays. Of two roles the one with the lower priority matters more. -/
structure Role where
  code : String
  name : Option String
  priority : Int
  isPrimary : Bool
  deriving DecidableEq, Inhabited

namespace Role

def pppoeServer : String := "pppoe_server"
def natGateway : String := "nat_gateway"
def dhcpServer : String := "dhcp_server"

/-- Whether a role needs tables of sessions or leases. -/
def tracksSessions (code : String) : Bool :=
  code == pppoeServer || code == natGateway || code == dhcpServer

/-- The kinds of metrics a role asks for beyond those every device is asked for. -/
def metricTypes (code : String) : List String :=
  match code with
  | "pppoe_server" => ["pppoe_sessions", "pppoe_throughput", "authentication_failures"]
  | "nat_gateway" => ["nat_sessions", "nat_pool_utilization", "port_exhaustion"]
  | "dhcp_server" => ["dhcp_leases", "dhcp_pool_utilization", "lease_conflicts"]
  | "vpn_gateway" => ["vpn_tunnels", "vpn_throughput", "tunnel_failures"]
  | "load_balancer" => ["backend_health", "connection_distribution", "session_persistence"]
  | "bandwidth_shaper" => ["queue_depth", "dropped_packets", "shaped_flows"]
  | "firewall" => ["blocked_connections", "rule_hits", "threat_detections"]
  | _ => []

def baseMetricTypes : List String := ["interface_metrics", "cpu_usage", "memory_usage"]

/-- The order in which roles matter; roles of one priority keep the order they have. -/
def notAfter (left right : Role) : Bool := left.priority ≤ right.priority

def byPriority (roles : List Role) : List Role := roles.mergeSort notAfter

/-- The first role of the lowest priority value. -/
def leading? : List Role → Option Role
  | [] => none
  | role :: rest =>
    match leading? rest with
    | some other => some (if other.priority < role.priority then other else role)
    | none => some role

/-- The role marked as primary, or else the leading one. -/
def primary? (roles : List Role) : Option Role :=
  (roles.find? (·.isPrimary)).or (leading? roles)

end Role

end RouterPoll
