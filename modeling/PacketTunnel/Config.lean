import PacketTunnel.Key
import PacketTunnel.Net.Endpoint
import PacketTunnel.Route.Resolution
import PacketTunnel.Text.Quoted

/-!
# Tunnel configurations

A configuration names the local private key, the one peer and the interface that sessions must use.
It may be incomplete; an engine is started only from the parameters of a complete one.
-/

namespace PacketTunnel

open Text Net

/-- The peer at the other end of the tunnel. -/
structure Peer where
  /-- Its public key. -/
  publicKey : PublicKey
  /-- Where it is reached. -/
  endpoint : Option Endpoint
  deriving DecidableEq, Repr

/-- A tunnel configuration. -/
structure Config where
  /-- The local private key. -/
  privateKey : PrivateKey
  /-- The peer. -/
  peer : Peer
  /-- The interface that sessions must use, if there is such a demand. -/
  requiredInterface : Option String
  deriving DecidableEq, Repr

/-- Why a configuration cannot start an engine. -/
inductive ConfigError where
  /-- The peer has no endpoint. -/
  | missingEndpoint
  /-- The peer's endpoint has no port. -/
  | invalidEndpoint (endpoint : Endpoint)
  deriving DecidableEq, Repr

/-- The text of the reason. -/
def ConfigError.message : ConfigError → String
  | missingEndpoint => "Peer has no endpoint"
  | invalidEndpoint endpoint => s!"Invalid peer endpoint {endpoint.text}"

/-- What an engine is started with. -/
structure EngineParams where
  /-- The bytes of the local private key. -/
  privateKey : KeyBytes
  /-- The bytes of the peer's public key. -/
  peerKey : KeyBytes
  /-- Where the peer is reached. -/
  peerEndpoint : Endpoint
  deriving DecidableEq, Repr

namespace Config

/-- The endpoint of the peer, if an engine can use it. -/
def usableEndpoint (c : Config) : Except ConfigError Endpoint :=
  match c.peer.endpoint with
  | none => .error .missingEndpoint
  | some endpoint => if endpoint.port = 0 then .error (.invalidEndpoint endpoint) else .ok endpoint

/-- Whether the configuration can start an engine. -/
def validate (c : Config) : Except ConfigError Unit := c.usableEndpoint.map fun _ => ()

/-- The parameters of an engine. -/
def engineParams (c : Config) : Except ConfigError EngineParams :=
  c.usableEndpoint.map fun endpoint => ⟨c.privateKey.bytes, c.peer.publicKey.bytes, endpoint⟩

/-- Demand the interface that a route goes through, unless the route has none or leads into a
tunnel. The flag says whether the demand was made. -/
def bindOutsideTunnel (c : Config) (route : Route.Resolution) : Bool × Config :=
  if route.isTunnel ∨ route.interfaceName = "" then (false, c)
  else (true, { c with requiredInterface := some route.interfaceName })

/-- An optional thing for diagnostics. -/
def shownOption (shown : Option String) : String :=
  match shown with
  | none => "None"
  | some text => s!"Some({text})"

/-- The configuration for diagnostics. -/
def shown (c : Config) : String :=
  let endpoint := shownOption (c.peer.endpoint.map Endpoint.text)
  let interface := shownOption (c.requiredInterface.map Quoted.text)
  s!"TunnelConfig \x7b private_key: {c.privateKey.shown}, peer: PeerConfig \x7b "
    ++ s!"public_key: {c.peer.publicKey.shown}, endpoint: {endpoint} \x7d, "
    ++ s!"required_interface: {interface} \x7d"

end Config

end PacketTunnel
