import PacketTunnel.Base64
import PacketTunnel.Key.Curve
import PacketTunnel.Text.Blank

/-!
# Keys

Private and public keys of 32 bytes, written in base64. A private key keeps its bytes as they were
given and never shows them in diagnostics. Public keys are told apart as field elements, so several
byte strings may be the same public key.
-/

namespace PacketTunnel

open Text

/-- The bytes of a key. -/
abbrev KeyBytes := Vector UInt8 32

/-- Why a text or a byte string is no key. -/
inductive KeyError where
  /-- The text is not base64. -/
  | invalidBase64
  /-- The text is base64 of another number of bytes. -/
  | invalidLength (found : Nat)
  deriving DecidableEq, Repr

/-- The text of the reason. -/
def KeyError.message : KeyError → String
  | invalidBase64 => "Invalid base64 encoding"
  | invalidLength found => s!"Invalid key length {found} (expected 32 bytes)"

namespace KeyBytes

/-- The key bytes of a list of exactly 32 bytes. -/
def ofList (l : List UInt8) : Except KeyError KeyBytes :=
  if h : l.toArray.size = 32 then .ok ⟨l.toArray, h⟩ else .error (.invalidLength l.length)

/-- The key bytes that a base64 text stands for; blanks at its ends are ignored. -/
def ofBase64 (text : String) : Except KeyError KeyBytes :=
  match Base64.decode? (trim text.toList) with
  | none => .error .invalidBase64
  | some bytes => ofList bytes

/-- The base64 text of key bytes. -/
def base64 (k : KeyBytes) : String := Base64.text k.toList

end KeyBytes

/-- A public key. -/
structure PublicKey where
  /-- The bytes as they were given. -/
  bytes : KeyBytes
  deriving DecidableEq, Repr

/-- A private key. -/
structure PrivateKey where
  /-- The bytes as they were given. -/
  bytes : KeyBytes
  deriving DecidableEq, Repr

namespace PublicKey

/-- The public key of a base64 text. -/
def ofBase64 (text : String) : Except KeyError PublicKey := (KeyBytes.ofBase64 text).map (⟨·⟩)

/-- The base64 text. -/
def base64 (k : PublicKey) : String := k.bytes.base64

/-- The field element that the key stands for. -/
def element (k : PublicKey) : Nat := Key.Curve.elementOf k.bytes.toList

/-- Whether two keys are the same field element. -/
def same (k l : PublicKey) : Bool := k.element = l.element

/-- The text for diagnostics: the first eight characters of the base64 text. -/
def shown (k : PublicKey) : String :=
  String.ofList ("PublicKey(".toList ++ k.base64.toList.take 8 ++ "...)".toList)

end PublicKey

namespace PrivateKey

/-- The private key of a base64 text. -/
def ofBase64 (text : String) : Except KeyError PrivateKey := (KeyBytes.ofBase64 text).map (⟨·⟩)

/-- The base64 text. -/
def base64 (k : PrivateKey) : String := k.bytes.base64

/-- The text for diagnostics, which shows nothing of the key. -/
def shown (_ : PrivateKey) : String := "PrivateKey([redacted])"

/-- The public key that belongs to a private key. -/
def publicKey (k : PrivateKey) : PublicKey :=
  let u := Key.Curve.multiple (Key.Curve.scalarOf k.bytes.toList) Key.Curve.basePoint
  ⟨Vector.ofFn fun i => (Key.Curve.toBytes 32 u).getD i.val 0⟩

end PrivateKey

end PacketTunnel
