/-!
# Headers of routing messages

A routing message begins with a header of 92 bytes. Its numbers are little-endian; the bytes not
named here are zero when written and ignored when read.
-/

namespace PacketTunnel.Route

/-- The length of a header. -/
def headerLength : Nat := 92

/-- The version of the message format. -/
def messageVersion : UInt8 := 5

/-- The kind of a message that asks for a route. -/
def getKind : UInt8 := 4

/-- The flag of a usable route. -/
def flagUp : UInt32 := 0x1

/-- The flag of a route through a gateway. -/
def flagGateway : UInt32 := 0x2

/-- The flag of a route entered by hand. -/
def flagStatic : UInt32 := 0x800

/-- The two bytes of a number, the lower one first. -/
def bytes16 (n : UInt16) : List UInt8 := [n.toUInt8, (n >>> 8).toUInt8]

/-- The four bytes of a number, the lowest one first. -/
def bytes32 (n : UInt32) : List UInt8 :=
  [n.toUInt8, (n >>> 8).toUInt8, (n >>> 16).toUInt8, (n >>> 24).toUInt8]

/-- The number of two bytes at an offset, missing ones as zero. -/
def read16 (bytes : List UInt8) (offset : Nat) : UInt16 :=
  (bytes.getD offset 0).toUInt16 ||| ((bytes.getD (offset + 1) 0).toUInt16 <<< 8)

/-- The number of four bytes at an offset, missing ones as zero. -/
def read32 (bytes : List UInt8) (offset : Nat) : UInt32 :=
  (bytes.getD offset 0).toUInt32 ||| ((bytes.getD (offset + 1) 0).toUInt32 <<< 8)
    ||| ((bytes.getD (offset + 2) 0).toUInt32 <<< 16)
    ||| ((bytes.getD (offset + 3) 0).toUInt32 <<< 24)

/-- The fields of a header. -/
structure Header where
  /-- The length of the whole message. -/
  messageLength : UInt16
  /-- The version of the format. -/
  version : UInt8
  /-- What the message is for. -/
  kind : UInt8
  /-- The index of the interface. -/
  index : UInt16
  /-- The flags of the route. -/
  flags : UInt32
  /-- One bit for each address that follows. -/
  addresses : UInt32
  /-- The process that asked. -/
  process : Int32
  /-- The number of the question. -/
  sequence : Int32
  /-- The error code of a failed question, else zero. -/
  errorCode : Int32
  deriving DecidableEq, Repr

namespace Header

/-- The bytes of a header. -/
def encode (h : Header) : List UInt8 :=
  bytes16 h.messageLength ++ [h.version, h.kind] ++ bytes16 h.index ++ [0, 0] ++ bytes32 h.flags
    ++ bytes32 h.addresses ++ bytes32 h.process.toUInt32 ++ bytes32 h.sequence.toUInt32
    ++ bytes32 h.errorCode.toUInt32 ++ List.replicate 64 0

/-- The header at the front of some bytes, unless they are too short. -/
def decode? (bytes : List UInt8) : Option Header :=
  if bytes.length < headerLength then none
  else some {
    messageLength := read16 bytes 0
    version := bytes.getD 2 0
    kind := bytes.getD 3 0
    index := read16 bytes 4
    flags := read32 bytes 8
    addresses := read32 bytes 12
    process := (read32 bytes 16).toInt32
    sequence := (read32 bytes 20).toInt32
    errorCode := (read32 bytes 24).toInt32 }

end Header

end PacketTunnel.Route
