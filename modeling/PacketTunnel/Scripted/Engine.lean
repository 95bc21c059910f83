import PacketTunnel.Bridge.Engine

/-!
# A scripted engine

An engine that does the same things at every call of one kind. Attempts to set one up count from
zero, and chosen ones are refused.
-/

namespace PacketTunnel.Scripted

open Net Bridge

/-- One thing that an engine does. -/
inductive Action where
  /-- Put out a datagram: given bytes, or the packet at hand. -/
  | datagram (endpoint : Endpoint) (bytes : Option Packet)
  /-- Put out a packet: given bytes, or the packet at hand. -/
  | packet (family : Family) (bytes : Option Packet)
  /-- Break. -/
  | fail

/-- What an engine does at each kind of call. -/
structure Script where
  /-- When it is set up. -/
  init : List Action
  /-- When it is given a packet from the host. -/
  host : List Action
  /-- When it is given a datagram from the network. -/
  tunnel : List Action
  /-- When time has passed. -/
  tick : List Action
  /-- When it is no longer needed. -/
  shutdown : List Action
  /-- The attempts that are refused. -/
  refused : List Nat

/-- What actions put out about the packet at hand, and whether the engine lasts. -/
def act (packet : Packet) : List Action → List Emission × Bool
  | [] => ([], true)
  | .fail :: _ => ([], false)
  | .datagram endpoint bytes :: rest =>
    let (output, lasts) := act packet rest
    (.datagram endpoint (bytes.getD packet) :: output, lasts)
  | .packet family bytes :: rest =>
    let (output, lasts) := act packet rest
    (.packet family (bytes.getD packet) :: output, lasts)

/-- The reaction that actions make up. -/
def react (actions : List Action) (packet : Packet) : Reaction Unit :=
  let (output, lasts) := act packet actions
  ⟨output, if lasts then some () else none⟩

/-- The kind of engine that follows a script; the workshop counts the attempts. -/
def Script.kind (s : Script) : Kind Nat Unit where
  init attempt _ :=
    let (output, lasts) := act [] s.init
    (attempt + 1, output,
      if !lasts then .broken else if attempt ∈ s.refused then .refused else .running ())
  host _ packet := react s.host packet
  tunnel _ datagram := react s.tunnel datagram
  tick _ := react s.tick []
  shutdown _ := react s.shutdown []

end PacketTunnel.Scripted
