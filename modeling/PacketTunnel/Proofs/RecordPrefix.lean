import Mathlib.Data.List.Infix
import PacketTunnel.Proofs.AddressText
import PacketTunnel.Proofs.ReplyExtent

/-!
# Parts of records

Bytes that end early have the records of those that go on, up to the last one; of that one they may
have less. What a part of a record says is what the whole one says if it is an address, or a link
that has its first eight bytes. The part of a netmask says a netmask of its own.
-/

namespace PacketTunnel.Text.Utf8

/-- Something is decoded from every byte, if only its replacement. -/
theorem eq_nil_of_decodeLossy {bytes : List UInt8} (h : decodeLossy bytes = []) : bytes = [] := by
  cases bytes with
  | nil => rfl
  | cons b rest =>
    rw [decodeLossy] at h
    cases hfront : front? (b :: rest) <;> rw [hfront] at h <;> cases h

end PacketTunnel.Text.Utf8

namespace PacketTunnel.Route

open Net Text

namespace Records

/-- The records of the announced slots in order, unless the bytes end before one. -/
def list? (addresses : UInt32) : List Slot → List UInt8 → Option (List (Slot × List UInt8))
  | [], _ => some []
  | slot :: slots, payload =>
    if slot.isIn addresses then
      match payload with
      | [] => none
      | length :: _ =>
        (list? addresses slots (payload.drop (alignedLength length.toNat))).map
          ((slot, payload.take length.toNat) :: ·)
    else list? addresses slots payload

/-- Enter records one after the other. -/
def enter (r : Records) (found : List (Slot × List UInt8)) : Records :=
  found.foldl (fun r record => r.put record.1 record.2) r

/-- Collecting records is listing and entering them. -/
theorem collect_eq_map_enter (addresses : UInt32) (slots : List Slot) (payload : List UInt8)
    (r : Records) :
    collect addresses slots payload r = (list? addresses slots payload).map r.enter := by
  induction slots generalizing payload r with
  | nil => rfl
  | cons slot slots ih =>
    unfold collect list?
    split_ifs
    · cases payload with
      | nil => rfl
      | cons length tail =>
        show collect addresses slots _ _ = _
        rw [ih, Option.map_map]
        rfl
    · exact ih payload r

/-- The records are those of the announced slots. -/
theorem map_fst_of_list? {addresses : UInt32} {slots : List Slot} {payload : List UInt8}
    {found : List (Slot × List UInt8)} (h : list? addresses slots payload = some found) :
    found.map Prod.fst = slots.filter (·.isIn addresses) := by
  induction slots generalizing payload found with
  | nil =>
    cases h
    rfl
  | cons slot slots ih =>
    unfold list? at h
    split_ifs at h with hslot
    · cases payload with
      | nil => cases h
      | cons length tail =>
        obtain ⟨found, hfound, rfl⟩ := Option.map_eq_some_iff.mp h
        rw [List.map_cons, ih hfound, List.filter_cons, if_pos hslot]
    · rw [ih h, List.filter_cons, if_neg hslot]

/-- One list of records has the other's, but perhaps less of the last one. -/
inductive Shortened : List (Slot × List UInt8) → List (Slot × List UInt8) → Prop where
  /-- There are no records. -/
  | nil : Shortened [] []
  /-- The last record may be cut. -/
  | last (before : List (Slot × List UInt8)) (slot : Slot) {cut record : List UInt8}
      (h : cut <+: record) : Shortened (before ++ [(slot, cut)]) (before ++ [(slot, record)])

theorem Shortened.cons {cut whole : List (Slot × List UInt8)} (h : Shortened cut whole)
    (first : Slot × List UInt8) : Shortened (first :: cut) (first :: whole) := by
  cases h with
  | nil => exact .last [] first.1 (List.prefix_refl first.2)
  | last before slot h => exact .last (first :: before) slot h

/-- Where nothing is left no slot is announced. -/
theorem list?_nil {addresses : UInt32} {slots : List Slot} {found : List (Slot × List UInt8)}
    (h : list? addresses slots [] = some found) (payload : List UInt8) :
    found = [] ∧ list? addresses slots payload = some [] := by
  induction slots with
  | nil =>
    cases h
    exact ⟨rfl, rfl⟩
  | cons slot slots ih =>
    unfold list? at h ⊢
    split_ifs at h ⊢
    exact ih h

theorem le_alignedLength (n : Nat) : n ≤ alignedLength n := by
  rw [alignedLength]
  split <;> omega

/-- A part of the bytes has the records of all of them, but perhaps less of the last one. -/
theorem list?_part {addresses : UInt32} {slots : List Slot} {part payload : List UInt8}
    {cut : List (Slot × List UInt8)} (h : part <+: payload)
    (hcut : list? addresses slots part = some cut) :
    ∃ found, list? addresses slots payload = some found ∧ Shortened cut found := by
  induction slots generalizing part payload cut with
  | nil =>
    cases hcut
    exact ⟨[], rfl, .nil⟩
  | cons slot slots ih =>
    unfold list? at hcut ⊢
    split_ifs at hcut ⊢ with hslot
    · obtain ⟨more, rfl⟩ := h
      cases part with
      | nil => cases hcut
      | cons length part =>
        have hpart : length :: part <+: (length :: part) ++ more := List.prefix_append ..
        obtain ⟨rest, hrest, rfl⟩ := Option.map_eq_some_iff.mp hcut
        obtain ⟨found, hfound, hshort⟩ := ih (hpart.drop _) hrest
        refine ⟨_, Option.map_eq_some_iff.mpr ⟨found, hfound, rfl⟩, ?_⟩
        rcases Nat.lt_or_ge (length :: part).length length.toNat with hlt | hge
        · -- The part ends inside this record, so this is the last one that is announced.
          have hend : (length :: part).drop (alignedLength length.toNat) = [] :=
            List.drop_of_length_le (Nat.le_trans (Nat.le_of_lt hlt) (le_alignedLength _))
          rw [hend] at hrest
          obtain ⟨rfl, hnone⟩ := list?_nil hrest
            (((length :: part) ++ more).drop (alignedLength length.toNat))
          cases hfound.symm.trans hnone
          exact .last [] slot (hpart.take _)
        · have htake : ((length :: part) ++ more).take length.toNat =
              (length :: part).take length.toNat := List.take_append_of_le_length hge
          rw [htake]
          exact hshort.cons _
    · exact ih h hcut

theorem enter_append (r : Records) (before : List (Slot × List UInt8)) (slot : Slot)
    (record : List UInt8) :
    r.enter (before ++ [(slot, record)]) = (r.enter before).put slot record := by
  rw [enter, List.foldl_append]
  rfl

/-- Records of other slots leave the part of a slot as it is. -/
theorem enter_of_notMem {α : Type} (part : Records → α) {slot : Slot}
    (hput : ∀ (r : Records) (other : Slot) (record : List UInt8), other ≠ slot →
      part (r.put other record) = part r)
    {found : List (Slot × List UInt8)} (h : slot ∉ found.map Prod.fst) (r : Records) :
    part (r.enter found) = part r := by
  induction found generalizing r with
  | nil => rfl
  | cons first found ih =>
    rw [List.map_cons, List.mem_cons, not_or] at h
    exact (ih h.2 _).trans (hput r _ _ (Ne.symm h.1))

theorem destination_put (r : Records) (other : Slot) (record : List UInt8)
    (h : other ≠ .destination) : (r.put other record).destination = r.destination := by
  cases other with
  | destination => exact absurd rfl h
  | interface =>
    rw [put]
    split <;> rfl
  | _ => rfl

theorem interface_put (r : Records) (other : Slot) (record : List UInt8)
    (h : other ≠ .interface) : (r.put other record).interface = r.interface := by
  cases other with
  | interface => exact absurd rfl h
  | _ => rfl

/-- A record that was found for the destination stays the one of the destination. -/
theorem destination_enter_of_mem {found : List (Slot × List UInt8)}
    (hnodup : (found.map Prod.fst).Nodup) {beside : List UInt8}
    (h : (Slot.destination, beside) ∈ found) (r : Records) :
    (r.enter found).destination = some beside := by
  induction found generalizing r with
  | nil => cases h
  | cons first found ih =>
    rw [List.map_cons, List.nodup_cons] at hnodup
    rcases List.mem_cons.mp h with rfl | h
    · exact enter_of_notMem destination destination_put hnodup.1 _
    · exact ih hnodup.2 h _

/-- The record of the destination is the one that was found for it. -/
theorem destination_enter_iff {found : List (Slot × List UInt8)}
    (hnodup : (found.map Prod.fst).Nodup) {beside : List UInt8} :
    (enter {} found).destination = some beside ↔ (Slot.destination, beside) ∈ found := by
  refine ⟨fun h => ?_, fun h => destination_enter_of_mem hnodup h {}⟩
  by_cases hslot : Slot.destination ∈ found.map Prod.fst
  · obtain ⟨⟨_, beside'⟩, hbeside, rfl⟩ := List.mem_map.mp hslot
    rw [destination_enter_of_mem hnodup hbeside {}] at h
    cases h
    exact hbeside
  · rw [enter_of_notMem destination destination_put hslot] at h
    cases h

end Records

section Parts

variable {cut record : List UInt8}

/-- An address is where it is, whatever is behind it. -/
theorem Shows.of_part {x : Address} (h : cut <+: record) (hshows : Shows cut x) :
    Shows record x := by
  obtain ⟨more, rfl⟩ := h
  cases hshows with
  | v4 length port port' x rest =>
    rw [List.append_assoc, List.append_assoc]
    exact .v4 length port port' x (rest ++ more)
  | v6 length gap hgap x rest =>
    rw [List.append_assoc, List.append_assoc x.octets]
    exact .v6 length gap hgap x (rest ++ more)

/-- A record shows one address. -/
theorem Shows.eq {x y : Address} (hx : Shows record x) (hy : Shows record y) : x = y :=
  Option.some.inj <| (recordAddress?_eq_some_iff.mpr hx).symm.trans
    (recordAddress?_eq_some_iff.mpr hy)

/-- The family of an address is where it is. -/
theorem Shows.family_eq {x : Address} (h : cut <+: record) (hshows : Shows cut x) :
    record.getD 1 0 = cut.getD 1 0 := by
  obtain ⟨more, rfl⟩ := h
  cases hshows <;> rfl

/-- A link is known by its first eight bytes. -/
theorem IsLink.of_part {data : List UInt8} {index : UInt16} {size : Nat}
    (hlink : IsLink cut index size data) (more : List UInt8) :
    IsLink (cut ++ more) index size (data ++ more) := by
  obtain ⟨length, low, high, kind, size, address, selector, data, hindex, hsize⟩ := hlink
  exact .mk length low high kind size address selector (data ++ more) hindex hsize

/-- A part of a link that has these is a link with the same index and size. -/
theorem IsLink.exists_of_part {data : List UInt8} {index : UInt16} {size : Nat}
    (h : cut <+: record) (hlength : 8 ≤ cut.length) (hlink : IsLink record index size data) :
    ∃ data', IsLink cut index size data' := by
  obtain ⟨length, low, high, kind, size, address, selector, data, hindex, hsize⟩ := hlink
  obtain ⟨n, hn⟩ := Nat.exists_eq_add_of_le' hlength
  have hcut := List.prefix_iff_eq_take.mp h
  rw [hn] at hcut
  rw [hcut]
  exact ⟨data.take n, .mk length low high kind size address selector (data.take n) hindex hsize⟩

theorem IsLink.le_length {data : List UInt8} {index : UInt16} {size : Nat}
    (hlink : IsLink record index size data) : 8 ≤ record.length := by
  obtain ⟨length, low, high, kind, size, address, selector, data, -, -⟩ := hlink
  simp only [List.length_cons]
  omega

/-- The name of a link is not empty. -/
theorem IsLink.size_pos {data : List UInt8} {index : UInt16} {size : Nat}
    (hlink : IsLink record index size data) : 0 < size := by
  obtain ⟨length, low, high, kind, size, address, selector, data, -, hsize⟩ := hlink
  exact hsize

/-- Part of a destination's record is understood only as the whole one is. -/
theorem DestinationSays.of_part {asked x : Address} (h : cut <+: record)
    (hmeans : DestinationSays asked (some cut) (.ok x)) :
    DestinationSays asked (some record) (.ok x) := by
  cases hmeans with
  | shown hshows => exact .shown (hshows.of_part h)

/-- So is part of a gateway's record. -/
theorem GatewaySays.of_part {flags : UInt32} {x : Option Address} (h : cut <+: record)
    (hmeans : GatewaySays flags (some cut) (.ok x)) : GatewaySays flags (some record) (.ok x) := by
  cases hmeans with
  | unflagged hflag => exact .unflagged hflag
  | shown hflag hshows => exact .shown hflag (hshows.of_part h)

/-- So is part of a link's record that has the bytes of a link. -/
theorem InterfaceSays.of_part {x : String × UInt16} (h : cut <+: record)
    (hlength : 8 ≤ cut.length) (hmeans : InterfaceSays (some cut) (.ok x)) :
    InterfaceSays (some record) (.ok x) := by
  cases hmeans with
  | other hother =>
    refine .other fun index size data hlink => ?_
    obtain ⟨data', hcut⟩ := hlink.exists_of_part h hlength
    exact hother _ _ _ hcut
  | @named _ data index size hlink hsize =>
    obtain ⟨more, rfl⟩ := h
    have hname : size ≤ (data ++ more).length := by
      rw [List.length_append]
      omega
    rw [← List.take_append_of_le_length hsize]
    exact .named (hlink.of_part more) hname

/-- A record of fewer bytes is that of no link. -/
theorem InterfaceSays.eq_of_short {x : Except Error (String × UInt16)} (hlength : cut.length < 8)
    (hmeans : InterfaceSays (some cut) x) : x = .ok ("", 0) := by
  cases hmeans with
  | other => rfl
  | named hlink => exact absurd hlink.le_length (Nat.not_le.mpr hlength)
  | cut hlink => exact absurd hlink.le_length (Nat.not_le.mpr hlength)

/-- What a record says about an interface is one thing. -/
theorem InterfaceSays.eq {r : Option (List UInt8)} {x y : Except Error (String × UInt16)}
    (hx : InterfaceSays r x) (hy : InterfaceSays r y) : x = y :=
  (interfaceSays_iff.mp hx).symm.trans (interfaceSays_iff.mp hy)

/-- A link is never taken for an interface without a name. -/
theorem IsLink.ne_unnamed {data : List UInt8} {index : UInt16} {size : Nat}
    (hlink : IsLink record index size data) : ¬ InterfaceSays (some record) (.ok ("", 0)) := by
  intro hmeans
  generalize hx : (("", 0) : String × UInt16) = x at hmeans
  cases hmeans with
  | other hother => exact hother _ _ _ hlink
  | @named _ data' _ size' hlink' hsize =>
    obtain ⟨hname, -⟩ := Prod.mk.inj hx
    have hempty := Utf8.eq_nil_of_decodeLossy (String.ofList_eq_empty_iff.mp hname.symm)
    have hpos := hlink'.size_pos
    rw [← List.length_eq_zero_iff, List.length_take] at hempty
    omega

/-- A record gives one mask for an address. -/
theorem Masks.eq {x mask mask' : Address} (h : Masks record x mask) (h' : Masks record x mask') :
    mask = mask' := by
  cases h with
  | @v4 x mask h =>
    cases h' with
    | @v4 _ mask' h' => rw [← mask.ofOctets_octets, h, ← h', mask'.ofOctets_octets]
  | @v6 x mask h =>
    cases h' with
    | @v6 _ mask' h' => rw [← mask.ofOctets_octets, h, ← h', mask'.ofOctets_octets]

/-- Masks for one address are told apart by their texts. -/
theorem Masks.eq_of_text {x mask mask' : Address} (h : Masks cut x mask)
    (h' : Masks record x mask') (htext : mask.text = mask'.text) : mask = mask' := by
  have hchars : mask.chars = mask'.chars := String.ofList_injective htext
  cases h with
  | v4 _ =>
    cases h' with
    | v4 _ => exact congrArg Address.v4 (Ipv4.eq_of_chars_eq hchars)
  | v6 _ =>
    cases h' with
    | v6 _ => exact congrArg Address.v6 (Ipv6.eq_of_chars_eq hchars)

/-- Of a destination's record the netmask takes nothing but the family. -/
theorem netmaskOf_put_destination (r : Records) (h : record.getD 1 0 = cut.getD 1 0) :
    netmaskOf (r.put .destination record) = netmaskOf (r.put .destination cut) := by
  obtain ⟨destination, gateway, netmask, interface⟩ := r
  cases netmask with
  | none => rfl
  | some mask =>
    show (orFail (recordNetmask? mask (record.getD 1 0)) .parseNetmask).map some = _
    rw [h]
    rfl

/-- Part of a record in the place of these slots gives the route that the whole one gives. -/
theorem resolutionOf_put_of_part {flags : UInt32} {asked : Address} {r : Records} {slot : Slot}
    {route : Resolution} (h : cut <+: record) (hnetmask : slot ≠ .netmask)
    (hinterface : slot ≠ .interface)
    (hroute : resolutionOf flags asked (r.put slot cut) = .ok route) :
    resolutionOf flags asked (r.put slot record) = .ok route := by
  rw [resolutionOf_eq_ok_iff] at hroute ⊢
  obtain ⟨hd, hg, hn, hi⟩ := hroute
  cases slot with
  | destination =>
    have hmeans := destinationSays_iff.mpr hd
    refine ⟨destinationSays_iff.mp (hmeans.of_part h), hg, ?_, hi⟩
    cases hmeans with
    | shown hshows => rw [← hn, netmaskOf_put_destination r (hshows.family_eq h)]
  | gateway =>
    have hmeans := gatewaySays_iff.mpr hg
    exact ⟨hd, gatewaySays_iff.mp (hmeans.of_part h), hn, hi⟩
  | netmask => exact absurd rfl hnetmask
  | interface => exact absurd rfl hinterface
  | _ => exact ⟨hd, hg, hn, hi⟩

/-- Part of a netmask's record changes nothing but the netmask. -/
theorem resolutionOf_put_netmask {flags : UInt32} {asked : Address} {r : Records}
    {route : Resolution} (hroute : resolutionOf flags asked (r.put .netmask cut) = .ok route)
    (record : List UInt8) :
    NetmaskSays route.destination (some cut) r.destination route.netmask ∧
      ∃ netmask, NetmaskSays route.destination (some record) r.destination netmask ∧
        resolutionOf flags asked (r.put .netmask record) = .ok { route with netmask } := by
  obtain ⟨hd, hg, hn, hi⟩ := resolutionOf_eq_ok_iff.mp hroute
  have hdestination : DestinationSays asked r.destination (.ok route.destination) :=
    destinationSays_iff.mpr hd
  obtain ⟨netmask, hnetmask⟩ :=
    exists_netmaskOf (r := r.put .netmask record) (destinationSays_iff.mpr hd)
  exact ⟨(netmaskSays_iff (r := r.put .netmask cut) hdestination).mpr hn, netmask,
    (netmaskSays_iff (r := r.put .netmask record) hdestination).mpr hnetmask,
    resolutionOf_eq_ok_iff.mpr ⟨hd, hg, hnetmask, hi⟩⟩

/-- Part of a link's record changes nothing but the name and the index. -/
theorem resolutionOf_put_interface {flags : UInt32} {asked : Address} {r : Records}
    {route : Resolution} (hnone : r.interface = none)
    (hroute : resolutionOf flags asked (r.put .interface cut) = .ok route) (record : List UInt8) :
    InterfaceSays (some cut) (.ok (route.interfaceName, route.interfaceIndex)) ∧
      ∃ x, InterfaceSays (some record) x ∧
        resolutionOf flags asked (r.put .interface record) = x.map fun interface =>
          { route with interfaceName := interface.1, interfaceIndex := interface.2 } := by
  have hput (record : List UInt8) : r.put .interface record =
      { r with interface := (some record).filter Records.namesInterface } := by
    have helim := Records.elim_put r .interface (some record)
    rw [hnone] at helim
    simpa using helim
  rw [hput] at hroute
  obtain ⟨hd, hg, hn, hi⟩ := resolutionOf_eq_ok_iff.mp hroute
  refine ⟨interfaceSays_iff.mpr hi, _, interfaceSays_iff.mpr rfl, ?_⟩
  have hd : destinationOf asked (r.put .interface record).destination = .ok route.destination := by
    rw [hput]
    exact hd
  have hg : gatewayOf flags (r.put .interface record) = .ok route.gateway := by
    rw [hput]
    exact hg
  have hn : netmaskOf (r.put .interface record) = .ok route.netmask := by
    rw [hput]
    exact hn
  rw [resolutionOf_eq, hd, hg, hn, hput]
  cases interfaceOf ((some record).filter Records.namesInterface) <;> rfl

end Parts

end PacketTunnel.Route
