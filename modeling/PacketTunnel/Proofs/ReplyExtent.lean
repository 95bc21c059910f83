import Mathlib.Tactic.SplitIfs
import PacketTunnel.Proofs.ReplyReading

/-!
# How far a message is read

What a message means for a question is decided by its header and the records behind it, and the
header says how far these reach: what follows them is never looked at. Not every way to find no
route is a way to read a message: a netmask is always understood where the destination is.
-/

namespace PacketTunnel

section Bind

variable {ε α β : Type} {x : Except ε α} {f : α → Except ε β}

/-- Two steps succeed if the first does and the second does with its result. -/
theorem bind_eq_ok_iff {b : β} : x >>= f = .ok b ↔ ∃ a, x = .ok a ∧ f a = .ok b := by
  cases x with
  | error e =>
    constructor
    · intro h
      cases h
    · rintro ⟨_, h, _⟩
      cases h
  | ok a => exact ⟨fun h => ⟨a, rfl, h⟩, fun ⟨_, ha, hb⟩ => Except.ok.inj ha ▸ hb⟩

/-- Two steps fail if the first does, or if the second does with the first one's result. -/
theorem bind_eq_error_iff {e : ε} :
    x >>= f = .error e ↔ x = .error e ∨ ∃ a, x = .ok a ∧ f a = .error e := by
  cases x with
  | error e' =>
    refine ⟨fun h => .inl (congrArg _ (Except.error.inj h)), ?_⟩
    rintro (h | ⟨_, h, _⟩)
    · exact congrArg _ (Except.error.inj h)
    · cases h
  | ok a =>
    refine ⟨fun h => .inr ⟨a, rfl, h⟩, ?_⟩
    rintro (h | ⟨_, ha, hb⟩)
    · cases h
    · exact Except.ok.inj ha ▸ hb

end Bind

end PacketTunnel

namespace PacketTunnel.Route

open Net

theorem orFail_eq_ok_iff {α : Type} {x : Option α} {e : Error} {a : α} :
    orFail x e = .ok a ↔ x = some a := by
  cases x <;> simp [orFail]

theorem orFail_eq_error_iff {α : Type} {x : Option α} {e e' : Error} :
    orFail x e = .error e' ↔ x = none ∧ e = e' := by
  cases x <;> simp [orFail]

/-- What a header means for a question, together with the records behind it, which may be
missing. -/
def outcomeOf (header : Header) (records : Option Records) (process sequence : Int32)
    (asked : Address) : Except Error Outcome :=
  if header.version ≠ messageVersion then .error .invalidVersion
  else if header.process ≠ process ∨ header.sequence ≠ sequence then .ok .skip
  else if header.errorCode ≠ 0 then .error (.messageWithError header.errorCode.toInt)
  else if header.addresses = 0 then .error .noAddresses
  else do
    let records ← orFail records .invalidMessageLength
    let route ← resolutionOf header.flags asked records
    .ok (.resolved route)

/-- The records behind a header, unless the message ends before one. -/
def recordsOf? (header : Header) (message : List UInt8) : Option Records :=
  Records.collect header.addresses Slot.all (payloadOf header message) {}

/-- A message means what its header and its records mean. -/
theorem decodeReply_eq (message : List UInt8) (process sequence : Int32) (asked : Address) :
    decodeReply message process sequence asked = (do
      let header ← orFail (Header.decode? message) .invalidMessageLength
      outcomeOf header (recordsOf? header message) process sequence asked) := rfl

/-- A header that announces the answer to a question. -/
structure Header.Announces (h : Header) (process sequence : Int32) : Prop where
  /-- The version is the one that is understood. -/
  version_eq : h.version = messageVersion
  /-- The message is for the process that asked. -/
  process_eq : h.process = process
  /-- The message is for the question. -/
  sequence_eq : h.sequence = sequence
  /-- The question did not fail. -/
  errorCode_eq : h.errorCode = 0
  /-- Something is announced. -/
  addresses_ne_zero : h.addresses ≠ 0

section Outcome

variable {header : Header} {records : Option Records} {process sequence : Int32} {asked : Address}

/-- Behind the header of an answer the records say which route it is. -/
theorem outcomeOf_of_announces (h : header.Announces process sequence) :
    outcomeOf header records process sequence asked = (do
      let records ← orFail records .invalidMessageLength
      let route ← resolutionOf header.flags asked records
      .ok (.resolved route)) := by
  have hsame : ¬ (header.process ≠ process ∨ header.sequence ≠ sequence) := fun hor =>
    hor.elim (· h.process_eq) (· h.sequence_eq)
  rw [outcomeOf, if_neg (not_not_intro h.version_eq), if_neg hsame,
    if_neg (not_not_intro h.errorCode_eq), if_neg h.addresses_ne_zero]

/-- There is a route exactly if the header is that of an answer and the records describe it. -/
theorem outcomeOf_eq_resolved_iff {route : Resolution} :
    outcomeOf header records process sequence asked = .ok (.resolved route) ↔
      header.Announces process sequence ∧
        ∃ r, records = some r ∧ resolutionOf header.flags asked r = .ok route := by
  have hroute {x : Except Error Resolution} :
      (x >>= fun route => Except.ok (Outcome.resolved route)) = .ok (.resolved route) ↔
        x = .ok route := by
    rw [bind_eq_ok_iff]
    constructor
    · rintro ⟨_, hx, h⟩
      cases h
      exact hx
    · exact fun hx => ⟨_, hx, rfl⟩
  constructor
  · intro h
    have hannounces : header.Announces process sequence := by
      rw [outcomeOf] at h
      split_ifs at h with hversion hsame herror hzero
      · cases h
      · rw [not_or, not_not, not_not] at hsame
        exact ⟨not_not.mp hversion, hsame.1, hsame.2, not_not.mp herror, hzero⟩
    rw [outcomeOf_of_announces hannounces, bind_eq_ok_iff] at h
    obtain ⟨r, hr, h⟩ := h
    exact ⟨hannounces, r, orFail_eq_ok_iff.mp hr, hroute.mp h⟩
  · rintro ⟨hannounces, r, rfl, h⟩
    rw [outcomeOf_of_announces hannounces, bind_eq_ok_iff]
    exact ⟨r, rfl, hroute.mpr h⟩

/-- Records that describe the same route under the flags of a header mean the same behind it. -/
theorem outcomeOf_congr {r r' : Records}
    (h : resolutionOf header.flags asked r' = resolutionOf header.flags asked r) :
    outcomeOf header (some r') process sequence asked =
      outcomeOf header (some r) process sequence asked := by
  simp only [outcomeOf, orFail, bind, Except.bind, h]

end Outcome

/-- A route is described part by part. -/
theorem resolutionOf_eq_ok_iff {flags : UInt32} {asked : Address} {r : Records}
    {route : Resolution} : resolutionOf flags asked r = .ok route ↔
      destinationOf asked r.destination = .ok route.destination ∧
        gatewayOf flags r = .ok route.gateway ∧ netmaskOf r = .ok route.netmask ∧
        interfaceOf r.interface = .ok (route.interfaceName, route.interfaceIndex) := by
  rw [resolutionOf_eq]
  constructor
  · intro h
    obtain ⟨destination, hd, h⟩ := bind_eq_ok_iff.mp h
    obtain ⟨gateway, hg, h⟩ := bind_eq_ok_iff.mp h
    obtain ⟨netmask, hn, h⟩ := bind_eq_ok_iff.mp h
    obtain ⟨interface, hi, h⟩ := bind_eq_ok_iff.mp h
    cases h
    exact ⟨hd, hg, hn, hi⟩
  · rintro ⟨hd, hg, hn, hi⟩
    rw [hd, hg, hn, hi]
    rfl

/-- There is no error in the netmask: where the destination is not understood, that is the error. -/
theorem resolutionOf_ne_parseNetmask (flags : UInt32) (asked : Address) (r : Records) :
    resolutionOf flags asked r ≠ .error .parseNetmask := by
  intro h
  rw [resolutionOf_eq, bind_eq_error_iff] at h
  rcases h with hd | ⟨destination, hd, h⟩
  · rw [← destinationSays_iff] at hd
    generalize r.destination = record at hd
    cases hd
  rw [bind_eq_error_iff] at h
  rcases h with hg | ⟨gateway, -, h⟩
  · rw [← gatewaySays_iff] at hg
    generalize r.gateway = record at hg
    cases hg
  rw [bind_eq_error_iff] at h
  rcases h with hn | ⟨netmask, -, h⟩
  · obtain ⟨netmask, hn'⟩ := exists_netmaskOf (destinationSays_iff.mpr hd)
    rw [hn] at hn'
    cases hn'
  rw [bind_eq_error_iff] at h
  rcases h with hi | ⟨interface, -, h⟩
  · generalize r.interface = record at hi
    cases record with
    | none => cases hi
    | some record =>
      rw [interfaceOf] at hi
      cases hname : recordName? record <;> rw [hname] at hi <;> cases hi
  · cases h

/-- Reading a message never ends with a netmask that is none. -/
theorem decodeReply_ne_parseNetmask (message : List UInt8) (process sequence : Int32)
    (asked : Address) : decodeReply message process sequence asked ≠ .error .parseNetmask := by
  intro h
  rw [decodeReply_eq, bind_eq_error_iff] at h
  rcases h with hdecode | ⟨header, -, h⟩
  · cases (orFail_eq_error_iff.mp hdecode).2
  rw [outcomeOf] at h
  split_ifs at h
  · cases h
  · cases h
  · cases h
  rw [bind_eq_error_iff] at h
  rcases h with hr | ⟨r, -, h⟩
  · cases (orFail_eq_error_iff.mp hr).2
  rw [bind_eq_error_iff] at h
  rcases h with hroute | ⟨route, -, h⟩
  · exact resolutionOf_ne_parseNetmask _ _ _ hroute
  · cases h

/-- A message with its records in their places: its header announces them, and its length field
reaches at least to their end. Whatever else the header holds is open, and so is what is behind the
records. -/
structure Reply where
  /-- The bytes of the header. -/
  front : List UInt8
  /-- The fields of the header. -/
  header : Header
  /-- What is chosen for each slot. -/
  layout : Layout
  /-- The bytes behind the records. -/
  rest : List UInt8
  /-- The header has its length. -/
  length_front : front.length = headerLength
  /-- The fields are those of the bytes. -/
  decode_front : Header.decode? front = some header
  /-- The chosen slots are announced. -/
  announced : ∀ s : Slot, s.isIn header.addresses = (layout s).isSome
  /-- The length field takes in the records. -/
  reaches : headerLength + layout.payload.length ≤ header.messageLength.toNat

/-- An answer is such a message. -/
def Answer.toReply {process sequence : Int32} (a : Answer process sequence) : Reply where
  front := a.front
  header := a.header
  layout := a.layout
  rest := []
  length_front := a.length_front
  decode_front := a.decode_front
  announced s := a.addresses_eq ▸ a.layout.isIn_addresses s
  reaches := Nat.le_of_eq a.messageLength_eq.symm

namespace Reply

/-- The bytes of a message. -/
def message (r : Reply) : List UInt8 := r.front ++ (r.layout.payload ++ r.rest)

/-- The records stand at the front of what the length field takes in. -/
theorem exists_payloadOf_message (r : Reply) :
    ∃ behind, payloadOf r.header r.message = r.layout.payload ++ behind := by
  have hreaches := r.reaches
  obtain ⟨n, hn⟩ := Nat.exists_eq_add_of_le hreaches
  have hmax : max headerLength r.header.messageLength.toNat =
      r.front.length + (r.layout.payload.length + n) := by
    rw [r.length_front]
    omega
  refine ⟨r.rest.take n, ?_⟩
  rw [payloadOf, hmax, message, List.take_length_add_append, List.take_length_add_append,
    ← r.length_front, List.drop_left]

/-- A message means what its header and its records mean. -/
theorem decodeReply_message (r : Reply) (process sequence : Int32) (asked : Address) :
    decodeReply r.message process sequence asked =
      outcomeOf r.header (some r.layout.records) process sequence asked := by
  have hdecode : Header.decode? r.message = some r.header := Header.decode?_append r.decode_front _
  obtain ⟨behind, hpayload⟩ := r.exists_payloadOf_message
  rw [decodeReply_eq, hdecode]
  show outcomeOf r.header (recordsOf? r.header r.message) process sequence asked = _
  rw [recordsOf?, hpayload, r.layout.collect_payload r.announced]

end Reply

/-- How many bytes of a message its header and its length field take in. -/
def reach (message : List UInt8) : Nat := max headerLength (read16 message 0).toNat

/-- A header is read off the first bytes. -/
theorem Header.decode?_take {n : Nat} (h : headerLength ≤ n) (message : List UInt8) :
    decode? (message.take n) = decode? message := by
  rcases Nat.lt_or_ge message.length n with hlt | hge
  · rw [List.take_of_length_le (Nat.le_of_lt hlt)]
  · cases hdecode : decode? (message.take n) with
    | some header =>
      rw [← List.take_append_drop n message, decode?_append hdecode]
    | none =>
      rw [decode?] at hdecode
      split_ifs at hdecode with hlength
      rw [List.length_take] at hlength
      omega

/-- The length field of a header is in the first two bytes. -/
theorem Header.messageLength_of_decode? {message : List UInt8} {header : Header}
    (h : decode? message = some header) : header.messageLength = read16 message 0 := by
  rw [decode?] at h
  split_ifs at h
  cases h
  rfl

/-- Behind a header nothing is looked at from the end of the message on. -/
theorem payloadOf_take {header : Header} {n : Nat}
    (h : max headerLength header.messageLength.toNat ≤ n) (message : List UInt8) :
    payloadOf header (message.take n) = payloadOf header message := by
  rw [payloadOf, List.take_take, Nat.min_eq_left h, payloadOf]

/-- A message may be cut behind the bytes that it takes in. -/
theorem decodeReply_take {message : List UInt8} {n : Nat} (h : reach message ≤ n)
    (process sequence : Int32) (asked : Address) :
    decodeReply (message.take n) process sequence asked =
      decodeReply message process sequence asked := by
  rw [decodeReply_eq, decodeReply_eq,
    Header.decode?_take (Nat.le_trans (Nat.le_max_left ..) h) message]
  cases hdecode : Header.decode? message with
  | none => rfl
  | some header =>
    rw [reach, ← Header.messageLength_of_decode? hdecode] at h
    show outcomeOf header (recordsOf? header (message.take n)) process sequence asked = _
    rw [recordsOf?, payloadOf_take h]
    rfl

/-- Messages that agree as far as one of them is read mean the same. -/
theorem decodeReply_congr {message message' : List UInt8}
    (h : ∀ i < reach message, message'[i]? = message[i]?) (process sequence : Int32)
    (asked : Address) : decodeReply message' process sequence asked =
      decodeReply message process sequence asked := by
  have hfront : headerLength ≤ reach message := Nat.le_max_left ..
  have hbyte {i : Nat} (hi : i < headerLength) : message'.getD i 0 = message.getD i 0 := by
    rw [List.getD_eq_getElem?_getD, h i (Nat.lt_of_lt_of_le hi hfront),
      List.getD_eq_getElem?_getD]
  have hreach : reach message' = reach message := by
    rw [reach, read16, hbyte (by decide), hbyte (by decide)]
    rfl
  have htake : message'.take (reach message) = message.take (reach message) := by
    apply List.ext_getElem?
    intro i
    rw [List.getElem?_take, List.getElem?_take]
    split
    · exact h i ‹_›
    · rfl
  rw [← decodeReply_take (Nat.le_of_eq hreach), htake, decodeReply_take (Nat.le_refl _)]

end PacketTunnel.Route
