import PacketTunnel.Key
import PacketTunnel.Shape

/-!
# Keys in data

A key in data is a base64 text. What is wrong with a text that is no key is told as the reason why
its value is refused.
-/

namespace PacketTunnel

open Shape

/-- The mismatch of a text that is no key. -/
def KeyError.mismatch (e : KeyError) : Mismatch := .refused e.message

/-- The public key of a text in data. -/
def PublicKey.ofText (text : String) : Except Mismatch PublicKey :=
  (PublicKey.ofBase64 text).mapError KeyError.mismatch

/-- The private key of a text in data. -/
def PrivateKey.ofText (text : String) : Except Mismatch PrivateKey :=
  (PrivateKey.ofBase64 text).mapError KeyError.mismatch

end PacketTunnel
