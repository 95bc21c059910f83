import PacketTunnel.Config.Fields
import PacketTunnel.Toml.Document
import PacketTunnel.Toml.Style

/-!
# Configurations in TOML

Reading takes tables, or lists of the parts in order, and ignores entries it does not know; entries
are looked at in the order of the document. Writing gives the texts at the top first and then the
table of the peer; absent fields are left out.
-/

namespace PacketTunnel.Config

open Text Net Shape

/-- Why a TOML configuration is refused. -/
inductive TomlError where
  /-- The text is no TOML document. -/
  | malformed
  /-- The document has the wrong shape. -/
  | shape (mismatch : Mismatch)
  deriving DecidableEq, Repr

namespace FromToml

open PacketTunnel.Toml

variable {α : Type}

/-- A text that stands for a value. -/
def text (expected : String) (convert : String → Except Mismatch α) (node : Node) :
    Except Mismatch α :=
  match node with
  | .scalar (.string value) => convert value
  | _ => .error (.invalidType node.found expected)

/-- The name of an interface. -/
def interfaceName : Node → Except Mismatch String := text "a string" .ok

/-- An endpoint. -/
def endpoint : Node → Except Mismatch Endpoint := text endpointExpected endpointOf

/-- A public key. -/
def publicKey : Node → Except Mismatch PublicKey := text "a string" PublicKey.ofText

/-- A private key. -/
def privateKey : Node → Except Mismatch PrivateKey := text "a string" PrivateKey.ofText

/-- A value with named parts, from a table or from a list of the parts in order. A date is a table
without parts that anyone asks for. -/
def record (expected : String) (fromList : List Node → Except Mismatch α)
    (fromTable : Entries → Except Mismatch α) (node : Node) : Except Mismatch α :=
  match node with
  | .inline entries | .table _ entries => fromTable entries
  | .array items => fromList items
  | .tables elements => fromList (elements.map (.table .headed))
  | .scalar .datetime => fromTable []
  | .scalar _ => .error (.invalidType node.found expected)

/-- An entry of a peer. -/
def peerEntry (f : PeerFields) : String × Node → Except Mismatch PeerFields
  | (name, node) =>
    if name = publicKeyName then do
      let key ← publicKey node
      return { f with publicKey := some key }
    else if name = endpointName then do
      let place ← endpoint node
      return { f with endpoint := some (some place) }
    else return f

/-- The parts of a peer in order. -/
def peerList : List Node → Except Mismatch Peer
  | [] => .error (.invalidLength 0 peerListExpected)
  | key :: rest => do
    let key ← publicKey key
    let place ← rest.head?.mapM endpoint
    return ⟨key, place⟩

/-- A peer. -/
def peer : Node → Except Mismatch Peer :=
  record peerExpected peerList fun entries => do (← entries.foldlM peerEntry {}).finish

/-- An entry of a configuration. -/
def entry (f : Fields) : String × Node → Except Mismatch Fields
  | (name, node) =>
    if name = privateKeyName then do
      let key ← privateKey node
      return { f with privateKey := some key }
    else if name = peerName then do
      let peer ← peer node
      return { f with peer := some peer }
    else if name = requiredInterfaceName then do
      let interface ← interfaceName node
      return { f with requiredInterface := some (some interface) }
    else return f

/-- A configuration. -/
def config (entries : Entries) : Except Mismatch Config := do
  (← entries.foldlM entry {}).finish

end FromToml

/-- The configuration that a text stands for. -/
def ofToml (text : String) : Except TomlError Config :=
  match Toml.read? text with
  | none => .error .malformed
  | some entries => (FromToml.config entries).mapError .shape

/-- The written form, as a list of characters. -/
def tomlChars (c : Config) : List Char :=
  let optional (name : String) : Option String → List Char
    | none => []
    | some text => Toml.assignmentChars name text
  Toml.assignmentChars privateKeyName c.privateKey.base64
    ++ optional requiredInterfaceName c.requiredInterface
    ++ '\n' :: Toml.headerChars peerName
    ++ Toml.assignmentChars publicKeyName c.peer.publicKey.base64
    ++ optional endpointName (c.peer.endpoint.map Endpoint.text)

/-- The written form. -/
def toml (c : Config) : String := String.ofList c.tomlChars

end PacketTunnel.Config
