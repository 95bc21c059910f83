import PacketTunnel.Proofs.HeaderBytes
import PacketTunnel.Route.Reply

/-!
# How an answer is laid out

Behind its header an answer has the records of the slots that the header announces, in the order of
the slots. A record fills whole words and begins with its own length; an empty one takes up one word
that begins with zero. Reading such an answer finds every record in its place, so an answer means
what its records mean.
-/

namespace PacketTunnel.Route

open Net

/-- A record in its place: what it says, and what fills its last word. -/
structure Entry where
  /-- The record. -/
  record : List UInt8
  /-- What is behind it in its last word. -/
  padding : List UInt8
  /-- One byte holds the length of the record. -/
  length_lt : record.length < 256
  /-- The first byte of its place holds that length. -/
  head : (record ++ padding).head? = some record.length.toUInt8
  /-- The place consists of whole words. -/
  aligned : (record ++ padding).length = alignedLength record.length

namespace Entry

/-- The bytes of an entry. -/
def bytes (e : Entry) : List UInt8 := e.record ++ e.padding

/-- An empty record is laid out as one zero word. -/
def empty : Entry where
  record := []
  padding := [0, 0, 0, 0]
  length_lt := by decide
  head := rfl
  aligned := rfl

/-- A record of 1 to 255 bytes that begins with its length is laid out with zeros behind it. -/
def ofRecord (record : List UInt8) (hne : record ≠ []) (hlt : record.length < 256)
    (hhead : record.head? = some record.length.toUInt8) : Entry where
  record := record
  padding := List.replicate (alignedLength record.length - record.length) 0
  length_lt := hlt
  head := by rw [List.head?_append, hhead, Option.some_or]
  aligned := by
    have hpos : record.length ≠ 0 := mt List.length_eq_zero_iff.mp hne
    rw [List.length_append, List.length_replicate, alignedLength, if_neg hpos]
    omega

/-- Reading takes a record off the front of its place and goes on behind it. -/
theorem exists_bytes (e : Entry) (rest : List UInt8) : ∃ length tail,
    e.bytes ++ rest = length :: tail ∧
      (e.bytes ++ rest).take length.toNat = e.record ∧
      (e.bytes ++ rest).drop (alignedLength length.toNat) = rest := by
  have hlength : e.record.length.toUInt8.toNat = e.record.length := by
    rw [Nat.toUInt8_eq, UInt8.toNat_ofNat']
    exact Nat.mod_eq_of_lt e.length_lt
  obtain ⟨tail, htail⟩ := List.head?_eq_some_iff.mp e.head
  refine ⟨e.record.length.toUInt8, tail ++ rest, ?_, ?_, ?_⟩
  · rw [bytes, htail, List.cons_append]
  · rw [hlength, bytes, List.append_assoc, List.take_left]
  · rw [hlength, bytes, ← e.aligned, List.drop_left]

end Entry

/-- What is chosen for each slot. -/
abbrev Layout := Slot → Option Entry

namespace Layout

/-- The record of a slot. -/
def record (l : Layout) (s : Slot) : Option (List UInt8) := (l s).map Entry.record

/-- The bytes of some slots. -/
def bytesOf (l : Layout) (slots : List Slot) : List UInt8 :=
  slots.flatMap fun s => ((l s).map Entry.bytes).getD []

/-- The bytes behind the header. -/
def payload (l : Layout) : List UInt8 := l.bytesOf Slot.all

/-- The bits of the chosen slots. -/
def addresses (l : Layout) : UInt32 :=
  Slot.all.foldl (fun n s => if (l s).isSome then n ||| s.bit else n) 0

/-- The records that matter of those chosen. -/
def records (l : Layout) : Records where
  destination := l.record .destination
  gateway := l.record .gateway
  netmask := l.record .netmask
  interface := (l.record .interface).filter Records.namesInterface

theorem bytesOf_cons (l : Layout) (s : Slot) (slots : List Slot) :
    l.bytesOf (s :: slots) = ((l s).map Entry.bytes).getD [] ++ l.bytesOf slots := List.flatMap_cons

end Layout

/-- Entering a record that may be missing changes at most the part of its slot. -/
theorem Records.elim_put (r : Records) (s : Slot) (x : Option (List UInt8)) :
    x.elim r (r.put s) = match s with
      | .destination => { r with destination := x.or r.destination }
      | .gateway => { r with gateway := x.or r.gateway }
      | .netmask => { r with netmask := x.or r.netmask }
      | .interface => { r with interface := (x.filter namesInterface).or r.interface }
      | _ => r := by
  cases x with
  | none => cases s <;> rfl
  | some record =>
    cases s with
    | interface =>
      by_cases h : namesInterface record
      · simp [put, h, Option.filter]
      · simp [put, h, Option.filter]
    | _ => rfl

theorem Slot.mem_all (s : Slot) : s ∈ all := by
  cases s <;> decide

/-- Another bit announces its own slot and no other. -/
theorem Slot.isIn_or (s t : Slot) (n : UInt32) :
    s.isIn (n ||| t.bit) = (s.isIn n || decide (s = t)) := by
  have hbit : s.isIn t.bit = decide (s = t) := by cases s <;> cases t <;> rfl
  have hor : (n ||| t.bit) &&& s.bit = (n &&& s.bit) ||| (t.bit &&& s.bit) :=
    UInt32.toBitVec_inj.mp BitVec.and_or_distrib_right
  rw [← hbit, isIn, isIn, isIn, hor]
  by_cases hn : n &&& s.bit = 0
  · rw [hn, UInt32.zero_or]
    rfl
  · have hne : (n &&& s.bit) ||| (t.bit &&& s.bit) ≠ 0 := fun h =>
      hn (UInt32.or_eq_zero_iff.mp h).1
    simp only [hn, hne, ne_eq, not_false_eq_true, decide_true, Bool.true_or]

namespace Layout

/-- The bits of some slots announce those of them that are chosen. -/
theorem isIn_foldl (l : Layout) (slots : List Slot) (n : UInt32) (s : Slot) :
    s.isIn (slots.foldl (fun n t => if (l t).isSome then n ||| t.bit else n) n) =
      (s.isIn n || (decide (s ∈ slots) && (l s).isSome)) := by
  induction slots generalizing n with
  | nil => simp
  | cons t slots ih =>
    rw [List.foldl_cons, ih]
    by_cases ht : (l t).isSome
    · rw [if_pos ht, Slot.isIn_or]
      by_cases hst : s = t
      · subst hst
        simp [ht]
      · simp [hst]
    · rw [if_neg ht]
      by_cases hst : s = t
      · subst hst
        simp [ht]
      · simp [hst]

/-- A header that has the bits of the chosen slots announces those slots. -/
theorem isIn_addresses (l : Layout) (s : Slot) : s.isIn l.addresses = (l s).isSome := by
  have hzero : s.isIn 0 = false := by cases s <;> rfl
  rw [addresses, isIn_foldl, hzero, decide_eq_true s.mem_all, Bool.false_or, Bool.true_and]

/-- Records are found where they were laid out, whatever is behind them. -/
theorem collect_bytesOf (l : Layout) {addresses : UInt32} {slots : List Slot}
    (h : ∀ s ∈ slots, s.isIn addresses = (l s).isSome) (rest : List UInt8) (r : Records) :
    Records.collect addresses slots (l.bytesOf slots ++ rest) r =
      some (slots.foldl (fun r s => (l.record s).elim r (r.put s)) r) := by
  induction slots generalizing r with
  | nil => rfl
  | cons s slots ih =>
    have hs := h s (List.mem_cons_self ..)
    have ih := ih fun t ht => h t (List.mem_cons_of_mem _ ht)
    rw [bytesOf_cons, List.foldl_cons, record]
    cases hchoice : l s with
    | none =>
      rw [hchoice] at hs
      simp only [Option.map_none, Option.getD_none, List.nil_append, Option.elim_none]
      unfold Records.collect
      simp only [hs, Option.isSome_none, Bool.false_eq_true, ite_false]
      exact ih r
    | some e =>
      rw [hchoice] at hs
      obtain ⟨length, tail, hbytes, htake, hdrop⟩ := e.exists_bytes (l.bytesOf slots ++ rest)
      simp only [Option.map_some, Option.getD_some, Option.elim_some, List.append_assoc]
      rw [hbytes] at htake hdrop ⊢
      unfold Records.collect
      simp only [hs, Option.isSome_some, ite_true, htake, hdrop]
      exact ih _

/-- What is found in a whole payload is what was chosen, as far as it matters. -/
theorem collect_payload (l : Layout) {addresses : UInt32}
    (h : ∀ s : Slot, s.isIn addresses = (l s).isSome) (rest : List UInt8) :
    Records.collect addresses Slot.all (l.payload ++ rest) {} = some l.records := by
  rw [payload, l.collect_bytesOf (fun s _ => h s) rest {}]
  simp only [Slot.all, List.foldl_cons, List.foldl_nil, Records.elim_put, Option.or_none]
  rfl

/-- A header that announces a chosen slot announces something. -/
theorem addresses_ne_zero (l : Layout) {s : Slot} (h : (l s).isSome) : l.addresses ≠ 0 := by
  intro hzero
  have hin := l.isIn_addresses s
  rw [hzero, h] at hin
  cases s <;> cases hin

/-- No entry takes up more than 256 bytes. -/
theorem length_bytesOf_le (l : Layout) (slots : List Slot) :
    (l.bytesOf slots).length ≤ 256 * slots.length := by
  induction slots with
  | nil => exact Nat.zero_le _
  | cons s slots ih =>
    have hentry : (((l s).map Entry.bytes).getD []).length ≤ 256 := by
      cases l s with
      | none => exact Nat.zero_le _
      | some e =>
        have hlength := e.length_lt
        show (e.record ++ e.padding).length ≤ 256
        rw [e.aligned, alignedLength]
        split <;> omega
    rw [bytesOf_cons, List.length_append, List.length_cons]
    omega

/-- The length of a whole message fits into its field. -/
theorem length_payload_lt (l : Layout) : headerLength + l.payload.length < 65536 := by
  have hle := l.length_bytesOf_le Slot.all
  have hall : Slot.all.length = 8 := rfl
  rw [hall] at hle
  rw [payload, headerLength]
  omega

end Layout

/-- An answer to the question that a process asked under a number: a header that announces the
chosen slots, and behind it their records. Whatever else the header holds is open. -/
structure Answer (process sequence : Int32) where
  /-- The bytes of the header. -/
  front : List UInt8
  /-- The fields of the header. -/
  header : Header
  /-- What is chosen for each slot. -/
  layout : Layout
  /-- Some slot is chosen. -/
  chosen : ∃ s, (layout s).isSome
  /-- The header has its length. -/
  length_front : front.length = headerLength
  /-- The fields are those of the bytes. -/
  decode_front : Header.decode? front = some header
  /-- The version is the one that is understood. -/
  version_eq : header.version = messageVersion
  /-- The answer is for the process. -/
  process_eq : header.process = process
  /-- The answer is for the question. -/
  sequence_eq : header.sequence = sequence
  /-- The question did not fail. -/
  errorCode_eq : header.errorCode = 0
  /-- The chosen slots are announced. -/
  addresses_eq : header.addresses = layout.addresses
  /-- The length is that of the whole message. -/
  messageLength_eq : header.messageLength.toNat = headerLength + layout.payload.length

namespace Answer

variable {process sequence : Int32}

/-- The bytes of an answer. -/
def message (a : Answer process sequence) : List UInt8 := a.front ++ a.layout.payload

/-- The answer with given flags, kind and index: there is one for every choice of slots. -/
def write (process sequence : Int32) (kind : UInt8) (index : UInt16) (flags : UInt32) (l : Layout)
    (chosen : ∃ s, (l s).isSome) : Answer process sequence :=
  let header : Header := {
    messageLength := (headerLength + l.payload.length).toUInt16
    version := messageVersion
    kind, index, flags
    addresses := l.addresses
    process, sequence
    errorCode := 0 }
  { front := header.encode
    header
    layout := l
    chosen
    length_front := header.length_encode
    decode_front := List.append_nil header.encode ▸ header.decode?_encode []
    version_eq := rfl
    process_eq := rfl
    sequence_eq := rfl
    errorCode_eq := rfl
    addresses_eq := rfl
    messageLength_eq := by
      show (headerLength + l.payload.length).toUInt16.toNat = _
      rw [Nat.toUInt16_eq, UInt16.toNat_ofNat']
      exact Nat.mod_eq_of_lt l.length_payload_lt }

/-- The length field reaches to the end of the records. -/
theorem payloadOf_message (a : Answer process sequence) :
    payloadOf a.header a.message = a.layout.payload := by
  have hmax : max headerLength a.header.messageLength.toNat = a.message.length := by
    rw [a.messageLength_eq, message, List.length_append, a.length_front]
    omega
  rw [payloadOf, hmax, List.take_length, message, ← a.length_front, List.drop_left]

/-- An answer is read as what its records describe. -/
theorem decodeReply_message (a : Answer process sequence) (asked : Address) :
    decodeReply a.message process sequence asked =
      (resolutionOf a.header.flags asked a.layout.records).map .resolved := by
  obtain ⟨s, hs⟩ := a.chosen
  have hdecode : Header.decode? a.message = some a.header := Header.decode?_append a.decode_front _
  have haddresses : ¬ a.header.addresses = 0 := a.addresses_eq ▸ a.layout.addresses_ne_zero hs
  have hsame : ¬ (a.header.process ≠ process ∨ a.header.sequence ≠ sequence) := fun h =>
    h.elim (· a.process_eq) (· a.sequence_eq)
  have hcollect : Records.collect a.header.addresses Slot.all (payloadOf a.header a.message) {} =
      some a.layout.records := by
    rw [a.payloadOf_message, a.addresses_eq, ← List.append_nil a.layout.payload]
    exact a.layout.collect_payload a.layout.isIn_addresses []
  rw [decodeReply, hdecode]
  show (if a.header.version ≠ messageVersion then _ else _) = _
  rw [if_neg (not_not_intro a.version_eq), if_neg hsame, if_neg (not_not_intro a.errorCode_eq),
    if_neg haddresses, hcollect]
  show (resolutionOf a.header.flags asked a.layout.records >>= fun route =>
    Except.ok (Outcome.resolved route)) = _
  cases resolutionOf a.header.flags asked a.layout.records <;> rfl

end Answer

end PacketTunnel.Route
