import Mathlib.Data.List.GetD
import Mathlib.Logic.Function.Basic
import PacketTunnel.Proofs.ReplyExtent

/-!
# Netmasks without their zeros

A netmask may be sent without the zeros at its end, down to a record without any bytes. The records
behind it move up, but the answer means what it means with the whole netmask: every byte that is
missing is read as zero, whichever family the destination has.
-/

namespace PacketTunnel.Net

variable {l l' : List UInt8}

/-- An address depends on nothing but its octets. -/
theorem Ipv4.ofOctets_congr (h : ∀ i, l'.getD i 0 = l.getD i 0) : ofOctets l' = ofOctets l := by
  simp only [ofOctets, h]

/-- An address depends on nothing but its octets. -/
theorem Ipv6.ofOctets_congr (h : ∀ i, l'.getD i 0 = l.getD i 0) : ofOctets l' = ofOctets l := by
  simp only [ofOctets, h]

end PacketTunnel.Net

namespace PacketTunnel.Route

open Net Text

/-- A record loses zeros at its end. The first byte is the length of the record and changes with it;
if there is nothing but zeros behind it, the record may lose all bytes. -/
inductive Trims : (record short : List UInt8) → Prop where
  /-- The first byte is left, and so is what is in front of the zeros. -/
  | zeros (length length' : UInt8) (body : List UInt8) (n : Nat) :
      Trims (length :: (body ++ List.replicate n 0)) (length' :: body)
  /-- Nothing is left. -/
  | all (length : UInt8) (n : Nat) : Trims (length :: List.replicate n 0) []

/-- Behind the first byte nothing changes but that zeros are missing. -/
theorem Trims.getD_succ {record short : List UInt8} (h : Trims record short) (i : Nat) :
    short.getD (i + 1) 0 = record.getD (i + 1) 0 := by
  cases h with
  | zeros length length' body n =>
    rw [List.getD_cons_succ, List.getD_cons_succ]
    rcases Nat.lt_or_ge i body.length with hlt | hge
    · rw [List.getD_append _ _ _ _ hlt]
    · rw [List.getD_append_right _ _ _ _ hge, List.getD_eq_default _ _ hge,
        List.getD_eq_getElem?_getD, List.getElem?_getD_replicate_default_eq]
  | all length n =>
    rw [List.getD_cons_succ, List.getD_nil, List.getD_eq_getElem?_getD,
      List.getElem?_getD_replicate_default_eq]

/-- A netmask depends on nothing but the bytes behind the first one, missing ones being zero. -/
theorem recordNetmask?_congr {record record' : List UInt8}
    (h : ∀ i, record'.getD (i + 1) 0 = record.getD (i + 1) 0) (family : UInt8) :
    recordNetmask? record' family = recordNetmask? record family := by
  have hdrop (offset i : Nat) :
      (record'.drop (offset + 1)).getD i 0 = (record.drop (offset + 1)).getD i 0 := by
    have hi := h (offset + i)
    rw [Nat.add_right_comm, List.getD_eq_getElem?_getD, List.getD_eq_getElem?_getD] at hi
    rw [List.getD_eq_getElem?_getD, List.getD_eq_getElem?_getD, List.getElem?_drop,
      List.getElem?_drop, hi]
  rw [recordNetmask?, recordNetmask?, Ipv4.ofOctets_congr (hdrop 3), Ipv6.ofOctets_congr (hdrop 7)]

/-- The length field of a header may be written anew. -/
theorem Header.decode?_bytes16_append {front : List UInt8} {h : Header}
    (hdecode : decode? front = some h) (n : UInt16) :
    decode? (bytes16 n ++ front.drop 2) = some { h with messageLength := n } := by
  have hlength : ¬ front.length < headerLength := fun hlt => by
    rw [decode?, if_pos hlt] at hdecode
    cases hdecode
  have hlength' : ¬ (bytes16 n ++ front.drop 2).length < headerLength := by
    rw [List.length_append, List.length_drop, bytes16, List.length_cons, List.length_singleton]
    rw [headerLength] at hlength ⊢
    omega
  have hbyte (i : Nat) (hi : 2 ≤ i) : (bytes16 n ++ front.drop 2).getD i 0 = front.getD i 0 := by
    obtain ⟨i, rfl⟩ := Nat.exists_eq_add_of_le hi
    have hplace : 2 + (2 + i - (bytes16 n).length) = 2 + i := by
      rw [bytes16, List.length_cons, List.length_singleton, Nat.add_sub_cancel_left]
    rw [List.getD_append_right _ _ _ _ hi, List.getD_eq_getElem?_getD, List.getElem?_drop, hplace,
      List.getD_eq_getElem?_getD]
  rw [decode?, if_neg hlength] at hdecode
  cases hdecode
  rw [decode?, if_neg hlength', read16_bytes16 n rfl rfl]
  simp only [read16, read32, hbyte, Nat.reduceAdd, Nat.reduceLeDiff]

/-- A layout with another record for the netmask. -/
def Layout.withNetmask (l : Layout) (mask : Entry) : Layout :=
  Function.update l .netmask (some mask)

namespace Reply

/-- A message with another record for the netmask that it has: the records behind it move, and the
length field is written anew. -/
def withNetmask (r : Reply) (mask : Entry) (length : UInt16)
    (hmask : (r.layout .netmask).isSome)
    (hlength : headerLength + (r.layout.withNetmask mask).payload.length ≤ length.toNat) :
    Reply where
  front := bytes16 length ++ r.front.drop 2
  header := { r.header with messageLength := length }
  layout := r.layout.withNetmask mask
  rest := r.rest
  length_front := by
    rw [List.length_append, List.length_drop, r.length_front]
    rfl
  decode_front := Header.decode?_bytes16_append r.decode_front length
  announced s := by
    show s.isIn r.header.addresses = _
    rw [r.announced, Layout.withNetmask]
    by_cases hs : s = .netmask
    · rw [hs, hmask, Function.update_self, Option.isSome_some]
    · rw [Function.update_of_ne hs]
  reaches := hlength

end Reply

/-- Records describe the same route with a netmask that lost zeros. -/
theorem resolutionOf_withNetmask {l : Layout} {mask short : Entry} (hmask : l .netmask = some mask)
    (htrims : Trims mask.record short.record) (flags : UInt32) (asked : Address) :
    resolutionOf flags asked (l.withNetmask short).records =
      resolutionOf flags asked l.records := by
  have hrecord : (l.withNetmask short).record .netmask = some short.record := by
    rw [Layout.record, Layout.withNetmask, Function.update_self, Option.map_some]
  have hrecords : (l.withNetmask short).records =
      { l.records with netmask := some short.record } := by
    rw [← hrecord]
    rfl
  have hnetmask : netmaskOf { l.records with netmask := some short.record } =
      netmaskOf l.records := by
    have hwhole : l.records.netmask = some mask.record := by
      show (l .netmask).map Entry.record = _
      rw [hmask, Option.map_some]
    simp only [netmaskOf, hwhole]
    cases l.records.destination with
    | none => rfl
    | some destination => simp only [recordNetmask?_congr htrims.getD_succ]
  rw [hrecords, resolutionOf_eq, hnetmask, resolutionOf_eq]
  rfl

/-- A message means the same with a netmask that lost zeros, whatever the other records are. -/
theorem Reply.decodeReply_withNetmask (r : Reply) {mask short : Entry}
    (hmask : r.layout .netmask = some mask) (htrims : Trims mask.record short.record)
    {length : UInt16}
    (hlength : headerLength + (r.layout.withNetmask short).payload.length ≤ length.toNat)
    (process sequence : Int32) (asked : Address) :
    decodeReply (r.withNetmask short length (Option.isSome_of_eq_some hmask) hlength).message
        process sequence asked =
      decodeReply r.message process sequence asked := by
  rw [decodeReply_message, decodeReply_message]
  exact outcomeOf_congr (resolutionOf_withNetmask hmask htrims _ _)

/-- A route to an IPv6 network with a whole netmask, and the interface behind it. -/
def Layout.networkRoute6 : Layout
  | .destination => some <|
    .ofRecord (addressRecord (.v6 (Ipv6.ofOctets [253]))) (by decide) (by decide) (by decide)
  | .netmask => some <|
    .ofRecord (28 :: ([familyInet6, 0, 0, 0, 0, 0, 0, 255] ++ List.replicate 19 0))
      (by decide) (by decide) (by decide)
  | .interface => some <|
    .ofRecord [12, familyLink, 5, 0, 0, 3, 0, 0, 101, 110, 49, 0]
      (by decide) (by decide) (by decide)
  | _ => none

/-- Without 19 zeros the netmask takes up 16 bytes less, and the answer means the same. -/
theorem Reply.decodeReply_networkRoute6 :
    let r := (Answer.write 1 1 getKind 4 flagUp .networkRoute6 ⟨.destination, rfl⟩).toReply
    let short : Entry := .ofRecord (9 :: [familyInet6, 0, 0, 0, 0, 0, 0, 255])
      (by decide) (by decide) (by decide)
    let r' := r.withNetmask short 144 rfl (by decide)
    let asked : Address := .v6 (Ipv6.ofOctets [253, 7])
    r.message.length = 160 ∧ r'.message.length = 144 ∧
      decodeReply r'.message 1 1 asked = decodeReply r.message 1 1 asked ∧
      decodeReply r.message 1 1 asked =
        .ok (.resolved ⟨.v6 (Ipv6.ofOctets [253]), none,
          some (Address.v6 (Ipv6.ofOctets [255])).text, "en1", 5⟩) := by
  intro r short r' asked
  have htrims : Trims (28 :: ([familyInet6, 0, 0, 0, 0, 0, 0, 255] ++ List.replicate 19 0))
      short.record := .zeros 28 9 _ 19
  have hlink : IsLink [12, familyLink, 5, 0, 0, 3, 0, 0, 101, 110, 49, 0] 5
      (Utf8.encode ['e', 'n', '1']).length (Utf8.encode ['e', 'n', '1'] ++ [0]) :=
    .mk 12 5 0 0 3 0 0 [101, 110, 49, 0] rfl (by decide)
  have hdestination : DestinationSays asked Layout.networkRoute6.records.destination
      (.ok (.v6 (Ipv6.ofOctets [253]))) :=
    .shown (shows_addressRecord (.v6 (Ipv6.ofOctets [253])))
  have hmask : Masks (28 :: ([familyInet6, 0, 0, 0, 0, 0, 0, 255] ++ List.replicate 19 0))
      (.v6 (Ipv6.ofOctets [253])) (.v6 (Ipv6.ofOctets [255])) :=
    .v6 ((Ipv6.octets_ofOctets [255]).trans rfl)
  have hroute : resolutionOf flagUp asked Layout.networkRoute6.records =
      .ok ⟨.v6 (Ipv6.ofOctets [253]), none, some (Address.v6 (Ipv6.ofOctets [255])).text,
        "en1", 5⟩ :=
    resolutionOf_eq_ok_iff.mpr ⟨destinationSays_iff.mp hdestination, rfl,
      (netmaskSays_iff hdestination).mp (.given hmask), interfaceSays_iff.mp (.encoded hlink)⟩
  have hannounces : r.header.Announces 1 1 := ⟨rfl, rfl, rfl, rfl, by decide⟩
  exact ⟨rfl, rfl, r.decodeReply_withNetmask rfl htrims (by decide) 1 1 asked,
    (r.decodeReply_message 1 1 asked).trans
      (outcomeOf_eq_resolved_iff.mpr ⟨hannounces, _, rfl, hroute⟩)⟩

end PacketTunnel.Route
