import PacketTunnel.Net.Address

/-!
# Endpoints

A UDP endpoint is an address with a port and, for IPv6, a flow label and a scope. Endpoints that
differ in any of these are different. The scope is printed unless it is zero; the flow label is
never printed, and an endpoint that is read has none. Ports and scopes may be read with any number
of leading zeros.
-/

namespace PacketTunnel.Net

open Text

/-- A UDP endpoint. -/
inductive Endpoint where
  /-- An IPv4 address and a port. -/
  | v4 (address : Ipv4) (port : UInt16)
  /-- An IPv6 address, a port, a flow label and a scope. -/
  | v6 (address : Ipv6) (port : UInt16) (flow scope : UInt32)
  deriving DecidableEq, Repr

namespace Endpoint

/-- The port. -/
def port : Endpoint → UInt16
  | v4 _ port => port
  | v6 _ port _ _ => port

/-- Whether the endpoint has an IPv4 address. -/
def isV4 : Endpoint → Bool
  | v4 .. => true
  | v6 .. => false

/-- The flow label; without one it is zero. -/
def flow : Endpoint → UInt32
  | v4 .. => 0
  | v6 _ _ flow _ => flow

/-- The endpoint without its flow label. -/
def unlabelled : Endpoint → Endpoint
  | v4 address port => v4 address port
  | v6 address port _ scope => v6 address port 0 scope

/-- The scope as it is printed behind an address. -/
def scopeChars (scope : UInt32) : List Char :=
  if scope = 0 then [] else '%' :: Numeral.decimal scope.toNat

/-- The printed form, as a list of characters. -/
def chars : Endpoint → List Char
  | v4 address port => address.chars ++ ':' :: Numeral.decimal port.toNat
  | v6 address port _ scope =>
    '[' :: address.chars ++ scopeChars scope ++ ']' :: ':' :: Numeral.decimal port.toNat

/-- The printed form. -/
def text (x : Endpoint) : String := String.ofList x.chars

/-- What a port must keep to. -/
def portLimits : Numeral.Limits := ⟨10, none, true, 1 <<< 16⟩

/-- What a scope must keep to. -/
def scopeLimits : Numeral.Limits := ⟨10, none, true, 1 <<< 32⟩

/-- A colon and a port at the front of a text. -/
def readPort? (text : List Char) : Option (UInt16 × List Char) := do
  let (n, rest) ← Numeral.read? portLimits (← expectChar? ':' text)
  some (n.toUInt16, rest)

/-- The scope at the front of a text, zero if none is written. -/
def readScope (text : List Char) : UInt32 × List Char :=
  match (expectChar? '%' text).bind (Numeral.read? scopeLimits) with
  | some (n, rest) => (n.toUInt32, rest)
  | none => (0, text)

/-- An IPv4 endpoint at the front of a text. -/
def readV4? (text : List Char) : Option (Endpoint × List Char) := do
  let (address, text) ← Ipv4.read? text
  let (port, text) ← readPort? text
  some (v4 address port, text)

/-- An IPv6 endpoint at the front of a text, without a flow label. -/
def readV6? (text : List Char) : Option (Endpoint × List Char) := do
  let (address, text) ← Ipv6.read? (← expectChar? '[' text)
  let (scope, text) := readScope text
  let (port, text) ← readPort? (← expectChar? ']' text)
  some (v6 address port 0 scope, text)

/-- The endpoint that a list of characters stands for. -/
def parseChars? (text : List Char) : Option Endpoint :=
  match (readV4? text).orElse fun _ => readV6? text with
  | some (x, []) => some x
  | _ => none

/-- The endpoint that a whole text stands for. -/
def parse? (text : String) : Option Endpoint := parseChars? text.toList

/-- What is said of a text that is no endpoint. -/
def syntaxMessage : String := "invalid socket address syntax"

end Endpoint

end PacketTunnel.Net
