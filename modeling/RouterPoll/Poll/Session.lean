/-!
# Interfaces, sessions and leases

The tables a poll brings back besides its metrics. Sessions and leases have natural keys, under which a store tells them apart, and are handed to a store in batches of one kind.
-/

namespace RouterPoll

structure InterfaceStatus where
  name : String
  index : Option Nat
  operUp : Bool
  adminUp : Bool
  rxBytes : Nat
  txBytes : Nat
  rxPackets : Nat
  txPackets : Nat
  deriving DecidableEq, Inhabited

structure PppoeSession where
  sessionId : String
  username : String
  callerId : Option String
  address : Option String
  uptimeSeconds : Option Nat
  deriving DecidableEq, Inhabited

structure NatSession where
  protocol : String
  srcAddress : String
  dstAddress : String
  replySrcAddress : Option String
  state : Option String
  deriving DecidableEq, Inhabited

structure DhcpLease where
  macAddress : String
  ipAddress : String
  hostname : Option String
  active : Bool
  deriving DecidableEq, Inhabited

def NatSession.naturalKey (session : NatSession) : String :=
  session.protocol ++ "|" ++ session.srcAddress ++ "|" ++ session.dstAddress

def DhcpLease.naturalKey (lease : DhcpLease) : String :=
  lease.macAddress ++ "|" ++ lease.ipAddress

inductive SessionKind where
  | pppoe
  | nat
  | dhcp
  deriving DecidableEq, Repr, Inhabited

namespace SessionKind

def text : SessionKind → String
  | pppoe => "pppoe"
  | nat => "nat"
  | dhcp => "dhcp"

def ofText? : String → Option SessionKind
  | "pppoe" => some pppoe
  | "nat" => some nat
  | "dhcp" => some dhcp
  | _ => none

end SessionKind

/-- Sessions or leases of one kind, as a device reports them at one time. -/
inductive SessionBatch where
  | pppoe (sessions : List PppoeSession)
  | nat (sessions : List NatSession)
  | dhcp (leases : List DhcpLease)
  deriving DecidableEq, Inhabited

namespace SessionBatch

def kind : SessionBatch → SessionKind
  | pppoe _ => .pppoe
  | nat _ => .nat
  | dhcp _ => .dhcp

def size : SessionBatch → Nat
  | pppoe sessions => sessions.length
  | nat sessions => sessions.length
  | dhcp leases => leases.length

def isEmpty (batch : SessionBatch) : Bool := batch.size == 0

end SessionBatch

/-- One session or lease of any kind. -/
inductive SessionEntry where
  | pppoe (session : PppoeSession)
  | nat (session : NatSession)
  | dhcp (lease : DhcpLease)
  deriving DecidableEq, Inhabited

def SessionEntry.naturalKey : SessionEntry → String
  | pppoe session => session.sessionId
  | nat session => session.naturalKey
  | dhcp lease => lease.naturalKey

def SessionBatch.entries : SessionBatch → List SessionEntry
  | pppoe sessions => sessions.map .pppoe
  | nat sessions => sessions.map .nat
  | dhcp leases => leases.map .dhcp

end RouterPoll
