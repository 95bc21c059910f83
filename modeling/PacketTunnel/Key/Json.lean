import PacketTunnel.Json.Reader
import PacketTunnel.Json.Writer
import PacketTunnel.Key.Shape

/-!
# Keys in JSON

A key is written as a string that holds its base64 text.
-/

namespace PacketTunnel

open Text

namespace PublicKey

/-- Reads a public key. -/
def reader : Json.Reader PublicKey := Json.Reader.stringThen ofText

/-- The public key that a JSON text stands for. -/
def ofJson (text : String) : Except Json.Error PublicKey := reader.run (Utf8.ofString text)

/-- The written form, as a list of characters. -/
def jsonChars (k : PublicKey) : List Char := Json.stringChars k.base64

/-- The written form. -/
def json (k : PublicKey) : String := String.ofList k.jsonChars

end PublicKey

namespace PrivateKey

/-- Reads a private key. -/
def reader : Json.Reader PrivateKey := Json.Reader.stringThen ofText

/-- The private key that a JSON text stands for. -/
def ofJson (text : String) : Except Json.Error PrivateKey := reader.run (Utf8.ofString text)

/-- The written form, as a list of characters. -/
def jsonChars (k : PrivateKey) : List Char := Json.stringChars k.base64

/-- The written form. -/
def json (k : PrivateKey) : String := String.ofList k.jsonChars

end PrivateKey

end PacketTunnel
