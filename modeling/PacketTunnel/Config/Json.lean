import PacketTunnel.Config.Fields
import PacketTunnel.Key.Json

/-!
# Configurations in JSON

Reading takes objects, or lists of the parts in order, and ignores fields it does not know. Writing
gives every field, absent ones as null.
-/

namespace PacketTunnel.Config

open Text Net Shape

namespace FromJson

open PacketTunnel.Json

/-- An endpoint. -/
def endpoint : Reader Endpoint := Reader.string endpointExpected endpointOf

/-- The name of an interface, or null. -/
def interfaceName : Reader (Option String) := Reader.optional (Reader.string "a string" .ok)

/-- A member of a peer. -/
def peerMember (name : String) (f : PeerFields) : Reader PeerFields :=
  if name = publicKeyName then do
    let key ← Reader.once f.publicKey name PublicKey.reader
    return { f with publicKey := key }
  else if name = endpointName then do
    let place ← Reader.once f.endpoint name (Reader.optional endpoint)
    return { f with endpoint := place }
  else do
    Reader.colon
    Reader.skipValue
    return f

/-- The parts of a peer in order. -/
def peerList : Reader Peer := do
  match ← Reader.element? true PublicKey.reader with
  | none => Reader.failShape (.invalidLength 0 peerListExpected)
  | some key => do
    let place ← Reader.element? false (Reader.optional endpoint)
    return ⟨key, place.join⟩

/-- A peer. -/
def peer : Reader Peer :=
  Reader.record peerExpected peerList do
    Reader.ofShape (← Reader.object peerMember {}).finish

/-- A member of a configuration. -/
def member (name : String) (f : Fields) : Reader Fields :=
  if name = privateKeyName then do
    let key ← Reader.once f.privateKey name PrivateKey.reader
    return { f with privateKey := key }
  else if name = peerName then do
    let peer ← Reader.once f.peer name peer
    return { f with peer := peer }
  else if name = requiredInterfaceName then do
    let interface ← Reader.once f.requiredInterface name interfaceName
    return { f with requiredInterface := interface }
  else do
    Reader.colon
    Reader.skipValue
    return f

/-- The parts of a configuration in order. -/
def list : Reader Config := do
  match ← Reader.element? true PrivateKey.reader with
  | none => Reader.failShape (.invalidLength 0 configListExpected)
  | some key => do
    match ← Reader.element? false peer with
    | none => Reader.failShape (.invalidLength 1 configListExpected)
    | some peer => do
      let interface ← Reader.element? false interfaceName
      return ⟨key, peer, interface.join⟩

/-- A configuration. -/
def config : Reader Config :=
  Reader.record configExpected list do
    Reader.ofShape (← Reader.object member {}).finish

end FromJson

/-- The configuration that bytes stand for. -/
def ofJsonBytes (bytes : List UInt8) : Except Json.Error Config := FromJson.config.run bytes

/-- The configuration that a text stands for. -/
def ofJson (text : String) : Except Json.Error Config := ofJsonBytes (Utf8.ofString text)

/-- An optional text. -/
def optionChars : Option String → List Char
  | none => Json.nullChars
  | some text => Json.stringChars text

/-- The written form, as a list of characters. -/
def jsonChars (c : Config) : List Char :=
  Json.objectChars [
    (privateKeyName, c.privateKey.jsonChars),
    (peerName, Json.objectChars [
      (publicKeyName, c.peer.publicKey.jsonChars),
      (endpointName, optionChars (c.peer.endpoint.map Endpoint.text))]),
    (requiredInterfaceName, optionChars c.requiredInterface)]

/-- The written form. -/
def json (c : Config) : String := String.ofList c.jsonChars

/-- The text of an error of the JSON form. -/
def jsonMessage (e : Json.Error) : String := s!"Invalid JSON configuration: {e.message}"

end PacketTunnel.Config
