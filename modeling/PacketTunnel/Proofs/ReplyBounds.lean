import PacketTunnel.Proofs.ReplyExtent

/-!
# Accesses to a message

A reader must not access bytes that are not there, whatever the lengths in a message say. Here a
message is read by accesses that stop the reader as soon as one of them leaves the bytes at hand.
None does, since each is behind the test that makes it safe: the reader ends like the one that takes
missing bytes for zero.
-/

namespace PacketTunnel.Route

open Net Text

/-- Why a reader ends without a result. -/
inductive Stop where
  /-- An access left the bytes at hand. -/
  | outOfBounds
  /-- The message was refused. -/
  | refused (reason : Error)
  deriving DecidableEq, Repr

namespace Guarded

/-- Access one byte. -/
def byte (bytes : List UInt8) (i : Nat) : Except Stop UInt8 :=
  match bytes[i]? with
  | none => .error .outOfBounds
  | some b => .ok b

/-- The bytes from one place up to another, if these are in order and within the bytes. -/
def stretch? (bytes : List UInt8) (start stop : Nat) : Option (List UInt8) :=
  if start ≤ stop ∧ stop ≤ bytes.length then some ((bytes.take stop).drop start) else none

/-- Access the bytes from one place up to another. -/
def stretch (bytes : List UInt8) (start stop : Nat) : Except Stop (List UInt8) :=
  match stretch? bytes start stop with
  | none => .error .outOfBounds
  | some part => .ok part

/-- Write bytes over as many at the front of others. -/
def overwrite (target : List UInt8) (count : Nat) (source : List UInt8) :
    Except Stop (List UInt8) := do
  let place ← stretch target 0 count
  if place.length = source.length then .ok (source ++ target.drop count) else .error .outOfBounds

/-- A number held between two bounds, which have to be in order. -/
def within (low high n : Nat) : Except Stop Nat :=
  if low ≤ high then .ok (max low (min n high)) else .error .outOfBounds

/-- The number of two bytes. -/
def number16 (bytes : List UInt8) (i : Nat) : Except Stop UInt16 := do
  let low ← byte bytes i
  let high ← byte bytes (i + 1)
  .ok (read16 [low, high] 0)

/-- The number of four bytes. -/
def number32 (bytes : List UInt8) (i : Nat) : Except Stop UInt32 := do
  let source ← stretch bytes i (i + 4)
  let word ← overwrite (List.replicate 4 0) 4 source
  .ok (read32 word 0)

/-- The header at the front of a message. -/
def header (message : List UInt8) : Except Stop Header :=
  if message.length < headerLength then .error (.refused .invalidMessageLength)
  else do
    let messageLength ← number16 message 0
    let version ← byte message 2
    let kind ← byte message 3
    let index ← number16 message 4
    let flags ← number32 message 8
    let addresses ← number32 message 12
    let process ← number32 message 16
    let sequence ← number32 message 20
    let errorCode ← number32 message 24
    .ok {
      messageLength, version, kind, index, flags, addresses
      process := process.toInt32
      sequence := sequence.toInt32
      errorCode := errorCode.toInt32 }

/-- Enter the record of a slot. -/
def enter (r : Records) (slot : Slot) (record : List UInt8) : Except Stop Records :=
  match slot with
  | .interface =>
    if record.getD 1 0 = familyLink ∧ 8 ≤ record.length then do
      let size ← byte record 5
      .ok (if 0 < size then { r with interface := some record } else r)
    else .ok r
  | slot => .ok (r.put slot record)

/-- Collect the records of the announced slots, going through the bytes from a place on. -/
def collect (addresses : UInt32) (payload : List UInt8) :
    List Slot → (place : Nat) → Records → Except Stop Records
  | [], _, r => .ok r
  | slot :: slots, place, r =>
    if slot.isIn addresses then
      match (stretch? payload place payload.length).filter fun rest => !rest.isEmpty with
      | none => .error (.refused .invalidMessageLength)
      | some rest => do
        let length ← byte rest 0
        let record ← stretch rest 0 (min length.toNat rest.length)
        let r ← enter r slot record
        collect addresses payload slots (place + alignedLength length.toNat) r
    else collect addresses payload slots place r

/-- The octets of a mask from a place in its record on, as far as it has them. -/
def maskOctets (record : List UInt8) (place size : Nat) : Except Stop (List UInt8) :=
  match stretch? record place record.length with
  | none => .ok (List.replicate size 0)
  | some available => do
    let count := min available.length size
    let source ← stretch available 0 count
    overwrite (List.replicate size 0) count source

/-- The mask in a record, read in a family. -/
def mask (record : List UInt8) (family : UInt8) : Except Stop String :=
  if family = familyInet then do
    let octets ← maskOctets record 4 4
    .ok (Address.v4 (Ipv4.ofOctets octets)).text
  else if family = familyInet6 then do
    let octets ← maskOctets record 8 16
    .ok (Address.v6 (Ipv6.ofOctets octets)).text
  else .error (.refused .parseNetmask)

/-- The netmask of an answer, read in the family of the destination's record. -/
def netmask (r : Records) : Except Stop (Option String) :=
  match r.netmask, r.destination with
  | some record, some beside => (mask record (beside.getD 1 0)).map some
  | _, _ => .ok none

/-- The name and the index in the record of an interface. -/
def link (record : List UInt8) : Except Stop (String × UInt16) := do
  let size ← byte record 5
  match stretch? record 8 (8 + size.toNat) with
  | none => .error (.refused .invalidMessageLength)
  | some name => do
    let index ← number16 record 2
    .ok (String.ofList (Utf8.decodeLossy name), index)

/-- The name and the index of the interface of an answer. -/
def interface (record : Option (List UInt8)) : Except Stop (String × UInt16) :=
  match record with
  | none => .ok ("", 0)
  | some record => link record

/-- The route that records describe. An address is only read from a record that has all of it. -/
def resolution (flags : UInt32) (asked : Address) (r : Records) : Except Stop Resolution := do
  let destination ← (destinationOf asked r.destination).mapError .refused
  let gateway ← (gatewayOf flags r).mapError .refused
  let netmask ← netmask r
  let interface ← interface r.interface
  .ok ⟨destination, gateway, netmask, interface.1, interface.2⟩

/-- Read one message as the answer to the question for `asked`. -/
def reply (message : List UInt8) (process sequence : Int32) (asked : Address) :
    Except Stop Outcome := do
  let header ← header message
  if header.version ≠ messageVersion then .error (.refused .invalidVersion)
  else if header.process ≠ process ∨ header.sequence ≠ sequence then .ok .skip
  else if header.errorCode ≠ 0 then
    .error (.refused (.messageWithError header.errorCode.toInt))
  else if header.addresses = 0 then .error (.refused .noAddresses)
  else do
    let stop ← within headerLength message.length header.messageLength.toNat
    let payload ← stretch message headerLength stop
    let records ← collect header.addresses payload Slot.all 0 {}
    let route ← resolution header.flags asked records
    .ok (.resolved route)

theorem byte_eq {bytes : List UInt8} {i : Nat} (h : i < bytes.length) :
    byte bytes i = .ok (bytes.getD i 0) := by
  rw [byte, List.getElem?_eq_getElem h, List.getD_eq_getElem?_getD, List.getElem?_eq_getElem h]
  rfl

theorem stretch?_eq {bytes : List UInt8} {start stop : Nat} (h : start ≤ stop)
    (hstop : stop ≤ bytes.length) :
    stretch? bytes start stop = some ((bytes.take stop).drop start) := if_pos ⟨h, hstop⟩

/-- Bytes to the end can be had from every place within them, also from the end itself. -/
theorem stretch?_length (bytes : List UInt8) (place : Nat) :
    stretch? bytes place bytes.length =
      if place ≤ bytes.length then some (bytes.drop place) else none := by
  rw [stretch?, List.take_length]
  simp only [Nat.le_refl, and_true]

theorem stretch_eq {bytes : List UInt8} {start stop : Nat} (h : start ≤ stop)
    (hstop : stop ≤ bytes.length) :
    stretch bytes start stop = .ok ((bytes.take stop).drop start) := by
  rw [stretch, stretch?_eq h hstop]

theorem overwrite_eq (target : List UInt8) {source : List UInt8}
    (h : source.length ≤ target.length) :
    overwrite target source.length source = .ok (source ++ target.drop source.length) := by
  have hlength : ((target.take source.length).drop 0).length = source.length := by
    rw [List.drop_zero, List.length_take, Nat.min_eq_left h]
  rw [overwrite, stretch_eq (Nat.zero_le _) h]
  exact if_pos hlength

theorem number16_eq {bytes : List UInt8} {i : Nat} (h : i + 1 < bytes.length) :
    number16 bytes i = .ok (read16 bytes i) := by
  rw [number16, byte_eq (Nat.lt_of_succ_lt h), byte_eq h]
  rfl

theorem number32_eq {bytes : List UInt8} {i : Nat} (h : i + 4 ≤ bytes.length) :
    number32 bytes i = .ok (read32 bytes i) := by
  have hlength : ((bytes.take (i + 4)).drop i).length = 4 := by
    rw [List.length_drop, List.length_take, Nat.min_eq_left h]
    omega
  have hover : overwrite (List.replicate 4 0) 4 ((bytes.take (i + 4)).drop i) =
      .ok ((bytes.take (i + 4)).drop i) := by
    have h4 := overwrite_eq (List.replicate 4 0) (Nat.le_of_eq hlength)
    rw [hlength] at h4
    rw [h4]
    exact congrArg _ (List.append_nil _)
  have hbyte {k : Nat} (hk : k < 4) :
      ((bytes.take (i + 4)).drop i).getD k 0 = bytes.getD (i + k) 0 := by
    rw [List.getD_eq_getElem?_getD, List.getElem?_drop, List.getElem?_take, if_pos (by omega),
      List.getD_eq_getElem?_getD]
  rw [number32, stretch_eq (Nat.le_add_right ..) h]
  show (overwrite (List.replicate 4 0) 4 ((bytes.take (i + 4)).drop i) >>= fun word =>
    Except.ok (read32 word 0)) = _
  rw [hover]
  show Except.ok (read32 _ 0) = _
  rw [read32, hbyte (by decide), hbyte (by decide), hbyte (by decide), hbyte (by decide)]
  rfl

/-- A header is read within the bytes that a header has. -/
theorem header_eq (message : List UInt8) :
    header message = (orFail (Header.decode? message) .invalidMessageLength).mapError .refused := by
  rw [header, Header.decode?]
  split_ifs with h
  · rfl
  · have hlength : 92 ≤ message.length := Nat.not_lt.mp h
    rw [number16_eq (by omega), byte_eq (by omega), byte_eq (by omega), number16_eq (by omega),
      number32_eq (by omega), number32_eq (by omega), number32_eq (by omega),
      number32_eq (by omega), number32_eq (by omega)]
    rfl

/-- The size of a name is looked at only in a record that is long enough to have it. -/
theorem enter_eq (r : Records) (slot : Slot) (record : List UInt8) :
    enter r slot record = .ok (r.put slot record) := by
  cases slot with
  | interface =>
    rw [enter, Records.put, Records.namesInterface]
    by_cases h : record.getD 1 0 = familyLink ∧ 8 ≤ record.length
    · rw [if_pos h, byte_eq (by omega)]
      simp only [h, decide_true, Bool.true_and, decide_eq_true_eq]
      rfl
    · rw [if_neg h, ← Bool.decide_and, decide_eq_false h]
      rfl
  | _ => rfl

/-- Every place is looked at only where the bytes have not come to an end. -/
theorem collect_eq (addresses : UInt32) (payload : List UInt8) (slots : List Slot) (place : Nat)
    (r : Records) : collect addresses payload slots place r =
      (orFail (Records.collect addresses slots (payload.drop place) r)
        .invalidMessageLength).mapError .refused := by
  induction slots generalizing place r with
  | nil => rfl
  | cons slot slots ih =>
    rw [collect]
    unfold Records.collect
    split_ifs with hslot
    · rw [stretch?_length]
      cases hrest : payload.drop place with
      | nil =>
        split_ifs <;> rfl
      | cons length tail =>
        have hplace : place ≤ payload.length := by
          rcases Nat.lt_or_ge payload.length place with hlt | hge
          · rw [List.drop_of_length_le (Nat.le_of_lt hlt)] at hrest
            cases hrest
          · exact hge
        have hrecord : stretch (length :: tail) 0 (min length.toNat (length :: tail).length) =
            .ok ((length :: tail).take length.toNat) := by
          rw [stretch_eq (Nat.zero_le _) (Nat.min_le_right ..), List.drop_zero,
            ← List.take_eq_take_min]
        have hnext : (length :: tail).drop (alignedLength length.toNat) =
            payload.drop (place + alignedLength length.toNat) := by
          rw [← hrest, List.drop_drop]
        rw [if_pos hplace]
        show (stretch (length :: tail) 0 (min length.toNat (length :: tail).length) >>=
          fun record => enter r slot record >>= fun r =>
            collect addresses payload slots (place + alignedLength length.toNat) r) = _
        rw [hrecord]
        show (enter r slot _ >>= fun r =>
          collect addresses payload slots (place + alignedLength length.toNat) r) = _
        rw [enter_eq]
        show collect addresses payload slots (place + alignedLength length.toNat) _ = _
        rw [ih, ← hnext]
    · exact ih place r

/-- Octets that a record lacks are zero, and no more are taken than the mask has. -/
theorem maskOctets_eq (record : List UInt8) (place size : Nat) :
    maskOctets record place size =
      .ok ((record.drop place ++ List.replicate size 0).take size) := by
  rw [maskOctets, stretch?_length]
  split_ifs with hplace
  · generalize record.drop place = available
    have hcount : (available.take (min available.length size)).length =
        min available.length size := by
      rw [List.length_take]
      omega
    have hsource : stretch available 0 (min available.length size) =
        .ok (available.take (min available.length size)) :=
      stretch_eq (Nat.zero_le _) (Nat.min_le_left ..)
    have hfits : (available.take (min available.length size)).length ≤
        (List.replicate size (0 : UInt8)).length := by
      rw [hcount, List.length_replicate]
      exact Nat.min_le_right ..
    have hover := overwrite_eq (List.replicate size 0) hfits
    rw [hcount] at hover
    show (stretch available 0 (min available.length size) >>= fun source =>
      overwrite (List.replicate size 0) (min available.length size) source) = _
    rw [hsource]
    show overwrite (List.replicate size 0) (min available.length size) _ = _
    have hzeros : size - min available.length size = min (size - available.length) size := by
      omega
    rw [hover, List.take_append, List.drop_replicate, List.take_replicate, hzeros, Nat.min_comm,
      ← List.take_eq_take_min]
  · rw [List.drop_of_length_le (by omega), List.nil_append, List.take_replicate, Nat.min_self]

theorem mask_eq (record : List UInt8) (family : UInt8) :
    mask record family =
      (orFail (recordNetmask? record family) .parseNetmask).mapError .refused := by
  rw [mask, recordNetmask?, maskOctets_eq, maskOctets_eq, ← Ipv4.octets_ofOctets,
    ← Ipv6.octets_ofOctets]
  split_ifs
  · rfl
  · show Except.ok (Address.v6 (Ipv6.ofOctets (Ipv6.ofOctets _).octets)).text = _
    rw [Ipv6.ofOctets_octets]
    rfl
  · rfl

theorem netmask_eq (r : Records) : netmask r = (netmaskOf r).mapError .refused := by
  obtain ⟨destination, gateway, record, interface⟩ := r
  match record, destination with
  | none, _ => rfl
  | some record, none => rfl
  | some record, some beside =>
    show (mask record (beside.getD 1 0)).map some = _
    rw [mask_eq, netmaskOf]
    show _ = ((orFail (recordNetmask? record (beside.getD 1 0)) .parseNetmask).map some).mapError _
    cases recordNetmask? record (beside.getD 1 0) <;> rfl

/-- A record that names an interface is long enough for the size and the index in it. -/
theorem link_eq {record : List UInt8} (h : Records.namesInterface record) :
    link record = (interfaceOf (some record)).mapError .refused := by
  simp only [Records.namesInterface, Bool.and_eq_true, decide_eq_true_eq] at h
  obtain ⟨⟨-, hlength⟩, -⟩ := h
  rw [link, byte_eq (by omega), number16_eq (by omega), interfaceOf, recordName?]
  show (match stretch? record 8 (8 + (record.getD 5 0).toNat) with
    | none => Except.error (Stop.refused .invalidMessageLength)
    | some name => Except.ok (String.ofList (Utf8.decodeLossy name), read16 record 2)) = _
  rw [stretch?, List.drop_take, Nat.add_sub_cancel_left]
  by_cases hsize : 8 + (record.getD 5 0).toNat ≤ record.length
  · simp only [hsize, Nat.le_add_right, and_self, ite_true]
    rfl
  · simp only [hsize, and_false, ite_false]
    rfl

/-- The record of the interface, if there is one, names it. -/
def Named (r : Records) : Prop := ∀ record ∈ r.interface, Records.namesInterface record

theorem interface_eq {r : Records} (h : Named r) :
    interface r.interface = (interfaceOf r.interface).mapError .refused := by
  cases hrecord : r.interface with
  | none => rfl
  | some record => exact link_eq (h record hrecord)

theorem named_put {r : Records} (h : Named r) (slot : Slot) (record : List UInt8) :
    Named (r.put slot record) := by
  cases slot with
  | interface =>
    rw [Records.put]
    split_ifs with hnames
    · rintro _ ⟨⟩
      exact hnames
    · exact h
  | _ => exact h

/-- Only records that name an interface are collected as such. -/
theorem named_collect {addresses : UInt32} {slots : List Slot} {payload : List UInt8}
    {r r' : Records} (h : Named r)
    (hcollect : Records.collect addresses slots payload r = some r') : Named r' := by
  induction slots generalizing payload r with
  | nil =>
    cases hcollect
    exact h
  | cons slot slots ih =>
    unfold Records.collect at hcollect
    split_ifs at hcollect
    · cases payload with
      | nil => cases hcollect
      | cons length tail => exact ih (named_put h slot _) hcollect
    · exact ih h hcollect

/-- What records describe is read within them. -/
theorem resolution_eq (flags : UInt32) (asked : Address) {r : Records} (h : Named r) :
    resolution flags asked r = (resolutionOf flags asked r).mapError .refused := by
  rw [resolution, netmask_eq, interface_eq h, resolutionOf_eq]
  cases destinationOf asked r.destination with
  | error e => rfl
  | ok destination =>
    cases gatewayOf flags r with
    | error e => rfl
    | ok gateway =>
      cases netmaskOf r with
      | error e => rfl
      | ok netmask => cases interfaceOf r.interface <;> rfl

/-- The records of a message are accessed from the end of its header up to the end that its length
field gives, or up to its own end if that comes first. -/
theorem payload_eq {header : Header} {message : List UInt8} (h : headerLength ≤ message.length) :
    (within headerLength message.length header.messageLength.toNat >>=
      stretch message headerLength) = .ok (payloadOf header message) := by
  have hstop : max headerLength (min header.messageLength.toNat message.length) =
      min (max headerLength header.messageLength.toNat) message.length := by
    omega
  rw [within, if_pos h]
  show stretch message headerLength _ = _
  rw [stretch_eq (Nat.le_max_left ..) (Nat.max_le.mpr ⟨h, Nat.min_le_right ..⟩), hstop,
    ← List.take_eq_take_min, payloadOf]

/-- A message is read within its bytes. -/
theorem reply_eq (message : List UInt8) (process sequence : Int32) (asked : Address) :
    reply message process sequence asked =
      (decodeReply message process sequence asked).mapError .refused := by
  rw [reply, header_eq, decodeReply_eq]
  cases hdecode : Header.decode? message with
  | none => rfl
  | some header =>
    have hlength : headerLength ≤ message.length := by
      rw [Header.decode?] at hdecode
      split_ifs at hdecode with hlength
      exact Nat.not_lt.mp hlength
    show (if header.version ≠ messageVersion then _ else _) =
      (outcomeOf header (recordsOf? header message) process sequence asked).mapError Stop.refused
    rw [outcomeOf]
    split_ifs
    · rfl
    · rfl
    · rfl
    · rfl
    · rw [← bind_assoc, payload_eq hlength]
      show (collect header.addresses (payloadOf header message) Slot.all 0 {} >>= fun records =>
        resolution header.flags asked records >>= fun route => Except.ok (Outcome.resolved route)) =
          _
      rw [collect_eq, List.drop_zero, ← recordsOf?]
      cases hrecords : recordsOf? header message with
      | none => rfl
      | some r =>
        have hnamed : Named r := named_collect (by rintro _ ⟨⟩) hrecords
        show (resolution header.flags asked r >>= fun route => Except.ok (Outcome.resolved route)) =
          (resolutionOf header.flags asked r >>= fun route =>
            Except.ok (Outcome.resolved route)).mapError Stop.refused
        rw [resolution_eq header.flags asked hnamed]
        cases resolutionOf header.flags asked r <;> rfl

end Guarded

/-- Reading a message never accesses bytes that are not there: it says that the message is for
somebody else, gives a route or refuses the message, and never for its netmask. Messages that agree
as far as the length field of one of them says are read alike, whatever is behind. -/
theorem decodeReply_bounded (message : List UInt8) (process sequence : Int32) (asked : Address) :
    Guarded.reply message process sequence asked =
        (decodeReply message process sequence asked).mapError .refused ∧
      (Guarded.reply message process sequence asked = .ok .skip ∨
        (∃ route, Guarded.reply message process sequence asked = .ok (.resolved route)) ∨
        ∃ e ≠ Error.parseNetmask,
          Guarded.reply message process sequence asked = .error (.refused e)) ∧
      ∀ message' : List UInt8, (∀ i < reach message, message'[i]? = message[i]?) →
        decodeReply message' process sequence asked =
          decodeReply message process sequence asked := by
  refine ⟨Guarded.reply_eq message process sequence asked, ?_,
    fun message' h => decodeReply_congr h process sequence asked⟩
  rw [Guarded.reply_eq]
  cases h : decodeReply message process sequence asked with
  | error e =>
    refine .inr (.inr ⟨e, ?_, rfl⟩)
    rintro rfl
    exact decodeReply_ne_parseNetmask _ _ _ _ h
  | ok outcome =>
    cases outcome with
    | skip => exact .inl rfl
    | resolved route => exact .inr (.inl ⟨route, rfl⟩)

/-- A message whose only record says that it is longer than the message. -/
def overlong : List UInt8 :=
  Header.encode {
    messageLength := 100, version := messageVersion, kind := getKind, index := 0, flags := flagUp
    addresses := Slot.destination.bit, process := 1, sequence := 1, errorCode := 0 } ++
    [200, familyInet, 0, 0, 10, 64, 0, 1]

/-- A record that says too much is read as far as the message goes, also if more bytes follow. -/
theorem decodeReply_overlong :
    Guarded.reply overlong 1 1 (.v4 ⟨127, 0, 0, 1⟩) =
        .ok (.resolved ⟨.v4 ⟨10, 64, 0, 1⟩, none, none, "", 0⟩) ∧
      (∀ i < reach overlong, (overlong ++ [1, 2, 3])[i]? = overlong[i]?) ∧
      decodeReply (overlong ++ [1, 2, 3]) 1 1 (.v4 ⟨127, 0, 0, 1⟩) =
        .ok (.resolved ⟨.v4 ⟨10, 64, 0, 1⟩, none, none, "", 0⟩) := by
  obtain ⟨hguarded, -, hsame⟩ := decodeReply_bounded overlong 1 1 (.v4 ⟨127, 0, 0, 1⟩)
  have hroute : decodeReply overlong 1 1 (.v4 ⟨127, 0, 0, 1⟩) =
      .ok (.resolved ⟨.v4 ⟨10, 64, 0, 1⟩, none, none, "", 0⟩) := rfl
  have hagree : ∀ i < reach overlong, (overlong ++ [1, 2, 3])[i]? = overlong[i]? := fun i hi =>
    List.getElem?_append_left hi
  rw [hroute] at hguarded hsame
  exact ⟨hguarded, hagree, hsame _ hagree⟩

end PacketTunnel.Route
