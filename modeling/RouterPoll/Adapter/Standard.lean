import RouterPoll.Adapter.Registry
import RouterPoll.RouterOs.Adapter
import RouterPoll.Snmp.Adapter

/-!
# The standard registry

The adapters a poller has unless it is given others: SNMP first, and then RouterOS.
-/

namespace RouterPoll

/-- The standard adapters over links to agents and to services. -/
def Registry.standard [Surroundings ε] (agents : Snmp.Link ε) (services : RouterOs.Link ε)
    (settings : TransportSettings) : Registry ε :=
  ((Registry.empty.register (Snmp.adapter agents settings)).1.register
    (RouterOs.adapter services settings)).1

end RouterPoll
