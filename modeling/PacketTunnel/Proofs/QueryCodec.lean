import PacketTunnel.Proofs.ReplyExtent

/-!
# Reading a question

A question has the form of an answer, so its header and its destination are read back. But it
announces a gateway and an interface that it does not have: whoever reads it as the answer gets no
route from it.
-/

namespace PacketTunnel.Route

open Net

/-- A header is read back where it was written behind a buffer, whatever follows it. -/
theorem Header.decode?_drop_append_encode (buffer : List UInt8) (h : Header) (rest : List UInt8) :
    decode? ((buffer ++ h.encode ++ rest).drop buffer.length) = some h := by
  rw [List.append_assoc, List.drop_left, decode?_encode]

/-- A message that announces no slot but one. -/
def announceOnly (slot : Slot) (message : List UInt8) : List UInt8 :=
  message.take 12 ++ bytes32 (read32 message 12 &&& slot.bit) ++ message.drop 16

theorem announceOnly_encode (slot : Slot) (h : Header) (rest : List UInt8) :
    announceOnly slot (h.encode ++ rest) =
      { h with addresses := h.addresses &&& slot.bit }.encode ++ rest := by
  have haddresses : read32 (h.encode ++ rest) 12 = h.addresses := by
    rw [h.encode_append]
    exact read32_bytes32 _ rfl rfl rfl rfl
  rw [announceOnly, haddresses, h.encode_append, Header.encode_append]
  rfl

section Destination

/-- The first byte of the record of an address. -/
def addressLength : Address → UInt8
  | .v4 _ => 16
  | .v6 _ => 28

variable (x : Address)

/-- The record of an address begins with its length. -/
theorem head?_addressRecord : (addressRecord x).head? = some (addressLength x) := by
  cases x <;> rfl

theorem length_addressRecord : (addressRecord x).length = (addressLength x).toNat := by
  cases x with
  | v4 x => rfl
  | v6 x =>
    rw [addressRecord, List.length_append, List.length_append, x.length_octets]
    rfl

/-- The record of an address in its place. -/
def Entry.ofAddress : Entry :=
  .ofRecord (addressRecord x)
    (fun hnil => by
      have hhead := head?_addressRecord x
      rw [hnil] at hhead
      cases hhead)
    (length_addressRecord x ▸ (addressLength x).toNat_lt)
    (by rw [head?_addressRecord, length_addressRecord, Nat.toUInt8_eq, UInt8.ofNat_toNat])

theorem Entry.bytes_ofAddress : (ofAddress x).bytes = padRecord (addressRecord x) := rfl

/-- A layout that has nothing but a destination. -/
def Layout.ofDestination : Layout
  | .destination => some (.ofAddress x)
  | _ => none

theorem Layout.payload_ofDestination :
    (ofDestination x).payload = padRecord (addressRecord x) := by
  rw [payload, Slot.all, bytesOf_cons]
  exact List.append_nil _

end Destination

section Query

variable (destination : Address) (process sequence : Int32)

/-- The header of a question. -/
def queryHeader : Header where
  messageLength := (headerLength + (padRecord (addressRecord destination)).length).toUInt16
  version := messageVersion
  kind := getKind
  index := 0
  flags := flagUp ||| flagGateway ||| flagStatic
  addresses := Slot.destination.bit ||| Slot.gateway.bit ||| Slot.interface.bit
  process
  sequence
  errorCode := 0

theorem encodeQuery_eq : encodeQuery destination process sequence =
    (queryHeader destination process sequence).encode ++
      padRecord (addressRecord destination) := rfl

theorem length_encodeQuery : (encodeQuery destination process sequence).length =
    headerLength + (padRecord (addressRecord destination)).length := by
  rw [encodeQuery_eq, List.length_append, Header.length_encode]

/-- A question consists of whole words. -/
theorem four_dvd_length_encodeQuery : 4 ∣ (encodeQuery destination process sequence).length := by
  rw [length_encodeQuery, ← Entry.bytes_ofAddress, Entry.bytes,
    (Entry.ofAddress destination).aligned, alignedLength, headerLength]
  split <;> omega

/-- The length field of a question is its length. -/
theorem messageLength_queryHeader :
    (queryHeader destination process sequence).messageLength.toNat =
      (encodeQuery destination process sequence).length := by
  have hlt := (Layout.ofDestination destination).length_payload_lt
  rw [Layout.payload_ofDestination] at hlt
  rw [length_encodeQuery, queryHeader, Nat.toUInt16_eq, UInt16.toNat_ofNat']
  exact Nat.mod_eq_of_lt hlt

theorem decode?_encodeQuery : Header.decode? (encodeQuery destination process sequence) =
    some (queryHeader destination process sequence) :=
  Header.decode?_encode _ _

/-- The header of a question is that of an answer to it. -/
theorem announces_queryHeader :
    (queryHeader destination process sequence).Announces process sequence where
  version_eq := rfl
  process_eq := rfl
  sequence_eq := rfl
  errorCode_eq := rfl
  addresses_ne_zero := (by decide : (0x13 : UInt32) ≠ 0)

theorem payloadOf_encodeQuery : payloadOf (queryHeader destination process sequence)
    (encodeQuery destination process sequence) = padRecord (addressRecord destination) := by
  have hmax : max headerLength (queryHeader destination process sequence).messageLength.toNat =
      (encodeQuery destination process sequence).length := by
    rw [messageLength_queryHeader, length_encodeQuery]
    exact Nat.max_eq_right (Nat.le_add_right ..)
  rw [payloadOf, hmax, List.take_length, encodeQuery_eq, List.drop_left' (Header.length_encode _)]

/-- There is no record of the gateway that a question announces. -/
theorem recordsOf?_encodeQuery : recordsOf? (queryHeader destination process sequence)
    (encodeQuery destination process sequence) = none := by
  obtain ⟨length, tail, hbytes, -, hdrop⟩ := (Entry.ofAddress destination).exists_bytes []
  rw [List.append_nil, Entry.bytes_ofAddress] at hbytes hdrop
  have hdestination : Slot.destination.isIn (queryHeader destination process sequence).addresses :=
    (by decide : Slot.destination.isIn 0x13)
  have hgateway : Slot.gateway.isIn (queryHeader destination process sequence).addresses :=
    (by decide : Slot.gateway.isIn 0x13)
  rw [recordsOf?, payloadOf_encodeQuery, Slot.all]
  rw [hbytes] at hdrop ⊢
  rw [Records.collect, if_pos hdestination, hdrop, Records.collect, if_pos hgateway]

/-- The header of a question that announces no more than its destination. -/
def destinationHeader : Header :=
  { queryHeader destination process sequence with addresses := Slot.destination.bit }

/-- Such a question is laid out as an answer. -/
def destinationReply : Reply where
  front := (destinationHeader destination process sequence).encode
  header := destinationHeader destination process sequence
  layout := .ofDestination destination
  rest := []
  length_front := Header.length_encode _
  decode_front := by
    rw [← List.append_nil (destinationHeader destination process sequence).encode,
      Header.decode?_encode]
  announced s := by
    show s.isIn Slot.destination.bit = _
    cases s <;> rfl
  reaches := Nat.le_of_eq <| by
    rw [Layout.payload_ofDestination, ← length_encodeQuery destination process sequence]
    exact (messageLength_queryHeader destination process sequence).symm

theorem message_destinationReply : (destinationReply destination process sequence).message =
    announceOnly .destination (encodeQuery destination process sequence) := by
  have haddresses : (queryHeader destination process sequence).addresses &&& Slot.destination.bit =
      Slot.destination.bit := (by decide : (0x13 : UInt32) &&& 0x1 = 0x1)
  rw [encodeQuery_eq, announceOnly_encode, haddresses]
  show _ ++ ((Layout.ofDestination destination).payload ++ []) = _
  rw [List.append_nil, Layout.payload_ofDestination]
  rfl

/-- It is the answer with that destination. -/
theorem decodeReply_destinationReply (asked : Address) :
    decodeReply (destinationReply destination process sequence).message process sequence asked =
      .ok (.resolved ⟨destination, none, none, "", 0⟩) := by
  have hshown : DestinationSays asked (some (addressRecord destination)) (.ok destination) :=
    .shown (shows_addressRecord destination)
  rw [Reply.decodeReply_message, outcomeOf_eq_resolved_iff]
  refine ⟨⟨rfl, rfl, rfl, rfl, (by decide : (0x1 : UInt32) ≠ 0)⟩, _, rfl, ?_⟩
  exact resolutionOf_eq_ok_iff.mpr ⟨destinationSays_iff.mp hshown, rfl, rfl, rfl⟩

/-- A question is read back with what it asks for: its length field is its length, in whole words,
and its header is read where it was written, like every other. It is the answer with its destination
if it announces no more than that. As it is, nobody takes it for a route: the records that it
announces are missing, and under another process or number it is skipped. -/
theorem encodeQuery_codec :
    let message := encodeQuery destination process sequence
    (∃ length : UInt16, length.toNat = message.length ∧ 4 ∣ message.length ∧
      Header.decode? message = some {
        messageLength := length, version := messageVersion, kind := getKind, index := 0,
        flags := flagUp ||| flagGateway ||| flagStatic,
        addresses := Slot.destination.bit ||| Slot.gateway.bit ||| Slot.interface.bit,
        process, sequence, errorCode := 0 }) ∧
    (∀ (buffer : List UInt8) (header : Header) (rest : List UInt8),
      Header.decode? ((buffer ++ header.encode ++ rest).drop buffer.length) = some header) ∧
    ∀ asked : Address,
      decodeReply (announceOnly .destination message) process sequence asked =
        .ok (.resolved ⟨destination, none, none, "", 0⟩) ∧
      decodeReply message process sequence asked = .error .invalidMessageLength ∧
      ∀ process' sequence' : Int32, process' ≠ process ∨ sequence' ≠ sequence →
        decodeReply message process' sequence' asked = .ok .skip := by
  intro message
  refine ⟨⟨(queryHeader destination process sequence).messageLength,
    messageLength_queryHeader destination process sequence,
    four_dvd_length_encodeQuery destination process sequence,
    decode?_encodeQuery destination process sequence⟩, Header.decode?_drop_append_encode,
    fun asked => ⟨?_, ?_, ?_⟩⟩
  · rw [← message_destinationReply, decodeReply_destinationReply]
  · rw [decodeReply_eq, decode?_encodeQuery]
    show outcomeOf (queryHeader destination process sequence) (recordsOf? _ message)
      process sequence asked = _
    rw [recordsOf?_encodeQuery, outcomeOf_of_announces (announces_queryHeader ..)]
    rfl
  · intro process' sequence' hother
    rw [decodeReply_eq, decode?_encodeQuery]
    show outcomeOf (queryHeader destination process sequence) _ process' sequence' asked = _
    have hsame : process ≠ process' ∨ sequence ≠ sequence' := hother.imp Ne.symm Ne.symm
    rw [outcomeOf, if_neg (not_not_intro (announces_queryHeader ..).version_eq)]
    exact if_pos hsame

end Query

/-- The question of a process with a negative number, under a negative number. -/
theorem encodeQuery_codec_negative :
    let x : Address := .v6 (Ipv6.ofOctets [253, 7])
    let message := encodeQuery x (-7) (-2147483648)
    (Header.decode? message).map (fun header => (header.process, header.sequence)) =
        some (-7, -2147483648) ∧
      decodeReply (announceOnly .destination message) (-7) (-2147483648) (.v4 ⟨127, 0, 0, 1⟩) =
        .ok (.resolved ⟨x, none, none, "", 0⟩) ∧
      decodeReply message (-7) (-2147483648) x = .error .invalidMessageLength ∧
      decodeReply message 7 (-2147483648) x = .ok .skip := by
  intro x message
  obtain ⟨⟨length, -, -, hdecode⟩, -, hread⟩ := encodeQuery_codec x (-7) (-2147483648)
  obtain ⟨-, hmissing, hskip⟩ := hread x
  exact ⟨congrArg _ hdecode, (hread _).1, hmissing, hskip 7 (-2147483648) (.inl (by decide))⟩

end PacketTunnel.Route
