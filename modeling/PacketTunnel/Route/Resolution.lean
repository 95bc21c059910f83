import PacketTunnel.Net.Address

/-!
# Routes

The route that the routing table gives for a destination, and what is decided by it: whether it
leads into a tunnel and which interface of a list it goes through.
-/

namespace PacketTunnel.Route

open Net

/-- The route to a destination. -/
structure Resolution where
  /-- The destination the route is for. -/
  destination : Address
  /-- The next hop, if the route has one. -/
  gateway : Option Address
  /-- The netmask in text form, if the route has one. -/
  netmask : Option String
  /-- The name of the interface, empty if it is unknown. -/
  interfaceName : String
  /-- The index of the interface, zero if it is unknown. -/
  interfaceIndex : UInt16
  deriving DecidableEq, Repr

/-- What the names of tunnel interfaces begin with. -/
def tunnelName : List Char := ['u', 't', 'u', 'n']

/-- Whether an interface name belongs to a tunnel. -/
def isTunnelName (name : String) : Bool := tunnelName.isPrefixOf name.toList

namespace Resolution

/-- Whether the route leads into a tunnel. -/
def isTunnel (r : Resolution) : Bool := isTunnelName r.interfaceName

/-- The place of the first interface in a list that the route goes through. -/
def selectInterface? (r : Resolution) (available : List String) : Option Nat :=
  if r.interfaceName.isEmpty then none else available.findIdx? (· = r.interfaceName)

/-- The route on one line. -/
def describe (r : Resolution) : String :=
  let gateway := (r.gateway.map Address.text).getD "-"
  let netmask := r.netmask.getD "-"
  let tunnel := if r.isTunnel then " (tunnel)" else ""
  s!"{r.destination.text} via {gateway} netmask {netmask} dev {r.interfaceName}"
    ++ s!"#{r.interfaceIndex.toNat}{tunnel}"

end Resolution

end PacketTunnel.Route
