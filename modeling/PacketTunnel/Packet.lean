/-!
# Packets

A packet is a list of bytes whose first half-byte names the version of its protocol.
-/

namespace PacketTunnel

/-- A packet or datagram. -/
abbrev Packet := List UInt8

/-- The protocol family of a packet. -/
inductive Family where
  /-- IPv4. -/
  | inet
  /-- IPv6. -/
  | inet6
  deriving DecidableEq, Repr

/-- The family that a packet's first half-byte names. -/
def Family.ofPacket? : Packet → Option Family
  | [] => none
  | b :: _ =>
    if b >>> 4 = 4 then some .inet
    else if b >>> 4 = 6 then some .inet6
    else none

end PacketTunnel
