import PacketTunnel.Config
import PacketTunnel.Key.Shape

/-!
# Fields of a configuration

The named fields of a configuration, gathered one by one in any order by the readers of all
formats. A field may not come twice, keys and the peer may not be missing, and the parts of a
configuration may also be given as a list in the order of the fields.
-/

namespace PacketTunnel.Config

open Net Shape

/-- An endpoint, or the mismatch of a text that is none. -/
def endpointOf (text : String) : Except Mismatch Endpoint :=
  match Endpoint.parse? text with
  | some endpoint => .ok endpoint
  | none => .error (.refused Endpoint.syntaxMessage)

/-- What an endpoint is called where another value was found. -/
def endpointExpected : String := "socket address"

/-- What a peer is called where another value was found. -/
def peerExpected : String := "struct PeerConfig"

/-- What a configuration is called where another value was found. -/
def configExpected : String := "struct TunnelConfig"

/-- What a peer is called where a list is too short. -/
def peerListExpected : String := s!"{peerExpected} with 2 elements"

/-- What a configuration is called where a list is too short. -/
def configListExpected : String := s!"{configExpected} with 3 elements"

/-- The name of the private key's field. -/
def privateKeyName : String := "private_key"

/-- The name of the peer's field. -/
def peerName : String := "peer"

/-- The name of the required interface's field. -/
def requiredInterfaceName : String := "required_interface"

/-- The name of the public key's field. -/
def publicKeyName : String := "public_key"

/-- The name of the endpoint's field. -/
def endpointName : String := "endpoint"

/-- The fields of a peer seen so far. -/
structure PeerFields where
  /-- The public key. -/
  publicKey : Option PublicKey := none
  /-- The endpoint, which may be there and be null. -/
  endpoint : Option (Option Endpoint) := none

/-- The peer of the fields seen. -/
def PeerFields.finish (f : PeerFields) : Except Mismatch Peer :=
  match f.publicKey with
  | none => .error (.missingField publicKeyName)
  | some key => .ok ⟨key, f.endpoint.join⟩

/-- The fields of a configuration seen so far. -/
structure Fields where
  /-- The private key. -/
  privateKey : Option PrivateKey := none
  /-- The peer. -/
  peer : Option Peer := none
  /-- The required interface, which may be there and be null. -/
  requiredInterface : Option (Option String) := none

/-- The configuration of the fields seen. -/
def Fields.finish (f : Fields) : Except Mismatch Config :=
  match f.privateKey, f.peer with
  | none, _ => .error (.missingField privateKeyName)
  | _, none => .error (.missingField peerName)
  | some key, some peer => .ok ⟨key, peer, f.requiredInterface.join⟩

end PacketTunnel.Config
