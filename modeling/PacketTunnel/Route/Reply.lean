import PacketTunnel.Route.Error
import PacketTunnel.Route.Query
import PacketTunnel.Route.Resolution
import PacketTunnel.Text.Utf8

/-!
# Answers of the routing table

An answer is read under the process and number of the question. Answers to others are skipped
before anything else about them is looked at. A record that runs past the end of the message is
read as far as it goes; netmask records may be cut short, their missing bytes are zero.
-/

namespace PacketTunnel.Route

open Net Text

/-- The records that matter, as far as an answer has them. -/
structure Records where
  /-- The record of the destination. -/
  destination : Option (List UInt8) := none
  /-- The record of the gateway. -/
  gateway : Option (List UInt8) := none
  /-- The record of the netmask. -/
  netmask : Option (List UInt8) := none
  /-- The record of an interface with a name. -/
  interface : Option (List UInt8) := none
  deriving DecidableEq, Repr

namespace Records

/-- Whether a record names an interface. -/
def namesInterface (record : List UInt8) : Bool :=
  record.getD 1 0 = familyLink && 8 ≤ record.length && 0 < record.getD 5 0

/-- Enter the record of a slot. -/
def put (r : Records) (slot : Slot) (record : List UInt8) : Records :=
  match slot with
  | .destination => { r with destination := some record }
  | .gateway => { r with gateway := some record }
  | .netmask => { r with netmask := some record }
  | .interface => if namesInterface record then { r with interface := some record } else r
  | _ => r

/-- Collect the records of the announced slots in order, unless the bytes end before a record. -/
def collect (addresses : UInt32) : List Slot → List UInt8 → Records → Option Records
  | [], _, r => some r
  | slot :: slots, payload, r =>
    if slot.isIn addresses then
      match payload with
      | [] => none
      | length :: _ =>
        collect addresses slots (payload.drop (alignedLength length.toNat))
          (r.put slot (payload.take length.toNat))
    else collect addresses slots payload r

end Records

/-- The address in a record. -/
def recordAddress? (record : List UInt8) : Option Address :=
  match record[1]? with
  | none => none
  | some family =>
    if family = familyInet then
      if 8 ≤ record.length then some (.v4 (Ipv4.ofOctets (record.drop 4))) else none
    else if family = familyInet6 then
      if 24 ≤ record.length then some (.v6 (Ipv6.ofOctets (record.drop 8))) else none
    else none

/-- The netmask in a record, read in a family. -/
def recordNetmask? (record : List UInt8) (family : UInt8) : Option String :=
  if family = familyInet then some (Address.v4 (Ipv4.ofOctets (record.drop 4))).text
  else if family = familyInet6 then some (Address.v6 (Ipv6.ofOctets (record.drop 8))).text
  else none

/-- The name in the record of an interface, unless the record ends inside it. -/
def recordName? (record : List UInt8) : Option String :=
  let length := (record.getD 5 0).toNat
  if 8 + length ≤ record.length then
    some (String.ofList (Utf8.decodeLossy ((record.drop 8).take length)))
  else none

/-- What one message means for a question. -/
inductive Outcome where
  /-- The message is for somebody else. -/
  | skip
  /-- The message is the answer. -/
  | resolved (route : Resolution)
  deriving DecidableEq, Repr

/-- A value, or the error of its absence. -/
def orFail {α : Type} (x : Option α) (e : Error) : Except Error α :=
  match x with
  | some a => .ok a
  | none => .error e

/-- The gateway of an answer: only routes with the gateway flag have one. -/
def gatewayOf (flags : UInt32) (records : Records) : Except Error (Option Address) :=
  match records.gateway with
  | none => .ok none
  | some record =>
    if flags &&& flagGateway = 0 then .ok none
    else (orFail (recordAddress? record) .parseGateway).map some

/-- The netmask of an answer, read in the family of the destination's record. -/
def netmaskOf (records : Records) : Except Error (Option String) :=
  match records.netmask, records.destination with
  | some record, some destination =>
    (orFail (recordNetmask? record (destination.getD 1 0)) .parseNetmask).map some
  | _, _ => .ok none

/-- The route that the records of an answer describe. -/
def resolutionOf (flags : UInt32) (asked : Address) (records : Records) :
    Except Error Resolution := do
  let destination ← match records.destination with
    | none => .ok asked
    | some record => orFail (recordAddress? record) .parseDestination
  let gateway ← gatewayOf flags records
  let netmask ← netmaskOf records
  match records.interface with
  | none => .ok ⟨destination, gateway, netmask, "", 0⟩
  | some record => do
    let name ← orFail (recordName? record) .invalidMessageLength
    .ok ⟨destination, gateway, netmask, name, read16 record 2⟩

/-- The bytes of a message behind its header, as far as its length field reaches. -/
def payloadOf (header : Header) (message : List UInt8) : List UInt8 :=
  (message.take (max headerLength header.messageLength.toNat)).drop headerLength

/-- Read one message as the answer to the question for `asked`. -/
def decodeReply (message : List UInt8) (process sequence : Int32) (asked : Address) :
    Except Error Outcome := do
  let header ← orFail (Header.decode? message) .invalidMessageLength
  if header.version ≠ messageVersion then .error .invalidVersion
  else if header.process ≠ process ∨ header.sequence ≠ sequence then .ok .skip
  else if header.errorCode ≠ 0 then .error (.messageWithError header.errorCode.toInt)
  else if header.addresses = 0 then .error .noAddresses
  else do
    let records ← orFail
      (Records.collect header.addresses Slot.all (payloadOf header message) {})
      .invalidMessageLength
    let route ← resolutionOf header.flags asked records
    .ok (.resolved route)

end PacketTunnel.Route
