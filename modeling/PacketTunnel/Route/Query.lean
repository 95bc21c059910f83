import PacketTunnel.Net.Address
import PacketTunnel.Route.Header

/-!
# Questions to the routing table

A question is a header and the destination as an address record. Records begin with their length
and their family and are padded to words of four bytes; an empty record takes up one word.
-/

namespace PacketTunnel.Route

open Net

/-- The family of IPv4 records. -/
def familyInet : UInt8 := 2

/-- The family of interface records. -/
def familyLink : UInt8 := 18

/-- The family of IPv6 records. -/
def familyInet6 : UInt8 := 30

/-- The space that a record of the given length takes up. -/
def alignedLength (length : Nat) : Nat := if length = 0 then 4 else (length + 3) / 4 * 4

/-- The kinds of addresses that may follow a header, in the order they follow. -/
inductive Slot where
  /-- The destination. -/
  | destination
  /-- The gateway. -/
  | gateway
  /-- The netmask. -/
  | netmask
  /-- The mask for cloned routes. -/
  | cloneMask
  /-- The interface. -/
  | interface
  /-- The address of the interface. -/
  | interfaceAddress
  /-- The author of a redirect. -/
  | author
  /-- The broadcast address. -/
  | broadcast
  deriving DecidableEq, Repr

namespace Slot

/-- Every slot in order. -/
def all : List Slot :=
  [destination, gateway, netmask, cloneMask, interface, interfaceAddress, author, broadcast]

/-- The bit that stands for the slot in a header. -/
def bit : Slot → UInt32
  | destination => 0x1
  | gateway => 0x2
  | netmask => 0x4
  | cloneMask => 0x8
  | interface => 0x10
  | interfaceAddress => 0x20
  | author => 0x40
  | broadcast => 0x80

/-- Whether a header announces the slot. -/
def isIn (s : Slot) (addresses : UInt32) : Bool := addresses &&& s.bit ≠ 0

end Slot

/-- The record of an address. -/
def addressRecord : Address → List UInt8
  | .v4 x => [16, familyInet, 0, 0] ++ x.octets ++ List.replicate 8 0
  | .v6 x => [28, familyInet6] ++ List.replicate 6 0 ++ x.octets ++ List.replicate 4 0

/-- A record with its padding. -/
def padRecord (record : List UInt8) : List UInt8 :=
  record ++ List.replicate (alignedLength record.length - record.length) 0

/-- The question for the route to a destination. -/
def encodeQuery (destination : Address) (process sequence : Int32) : List UInt8 :=
  let record := padRecord (addressRecord destination)
  let header : Header := {
    messageLength := (headerLength + record.length).toUInt16
    version := messageVersion
    kind := getKind
    index := 0
    flags := flagUp ||| flagGateway ||| flagStatic
    addresses := Slot.destination.bit ||| Slot.gateway.bit ||| Slot.interface.bit
    process
    sequence
    errorCode := 0 }
  header.encode ++ record

end PacketTunnel.Route
