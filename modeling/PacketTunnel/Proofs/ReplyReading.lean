import PacketTunnel.Proofs.AddressOctets
import PacketTunnel.Proofs.ReplyLayout

/-!
# What an answer says

An answer says what the records of four of its slots say, each in its own way, and the records of
the other slots say nothing. The relations here give the layout of each record; reading an answer
finds exactly what they hold of.
-/

namespace PacketTunnel.Text.Utf8

/-- Decoding with replacements takes one written character off the front. -/
theorem decodeLossy_utf8EncodeChar_append (c : Char) (rest : List UInt8) :
    decodeLossy (String.utf8EncodeChar c ++ rest) = c :: decodeLossy rest := by
  have hfront := front?_utf8EncodeChar_append c rest
  have hlength := String.length_utf8EncodeChar c
  generalize hencode : String.utf8EncodeChar c = bytes at *
  match bytes, hencode with
  | [], hencode => exact absurd hencode (utf8EncodeChar_ne_nil c)
  | b :: more, _ =>
    rw [List.cons_append] at hfront
    rw [List.cons_append, decodeLossy, hfront]
    simp only
    rw [← List.cons_append, ← hlength, List.drop_left]

/-- Nothing is replaced in what was encoded. -/
theorem decodeLossy_encode (text : List Char) : decodeLossy (encode text) = text := by
  induction text with
  | nil => rw [encode, List.flatMap_nil, decodeLossy]
  | cons c rest ih =>
    rw [encode] at ih
    rw [encode, List.flatMap_cons, decodeLossy_utf8EncodeChar_append, ih]

end PacketTunnel.Text.Utf8

namespace PacketTunnel.Route

open Net Text

/-- A record shows an address: behind its family, at the place where that family has it. -/
inductive Shows : List UInt8 → Address → Prop where
  /-- An IPv4 address is behind two more bytes. -/
  | v4 (length port port' : UInt8) (x : Ipv4) (rest : List UInt8) :
      Shows ([length, familyInet, port, port'] ++ (x.octets ++ rest)) (.v4 x)
  /-- An IPv6 address is behind six more bytes. -/
  | v6 (length : UInt8) (gap : List UInt8) (hgap : gap.length = 6) (x : Ipv6)
      (rest : List UInt8) : Shows ([length, familyInet6] ++ gap ++ (x.octets ++ rest)) (.v6 x)

/-- A record gives the mask for an address: where the family of the address has its octets, as far
as the record goes, and zeros from there. -/
inductive Masks (record : List UInt8) : Address → Address → Prop where
  /-- The mask for an IPv4 address. -/
  | v4 {x mask : Ipv4} (h : mask.octets = (record.drop 4 ++ List.replicate 4 0).take 4) :
      Masks record (.v4 x) (.v4 mask)
  /-- The mask for an IPv6 address. -/
  | v6 {x mask : Ipv6} (h : mask.octets = (record.drop 8 ++ List.replicate 16 0).take 16) :
      Masks record (.v6 x) (.v6 mask)

/-- The record of a link with an index and a name of some length, with what it has from the first
byte of the name on. -/
inductive IsLink : List UInt8 → (index : UInt16) → (size : Nat) → (data : List UInt8) → Prop where
  /-- The record has the family of links, and the name is not empty. -/
  | mk (length low high kind size address selector : UInt8) (data : List UInt8) {index : UInt16}
      (hindex : index.toNat = low.toNat + 256 * high.toNat) (hsize : 0 < size.toNat) :
      IsLink (length :: familyLink :: low :: high :: kind :: size :: address :: selector :: data)
        index size.toNat data

/-- What the record of the destination says. -/
inductive DestinationSays (asked : Address) :
    Option (List UInt8) → Except Error Address → Prop where
  /-- Without a record the destination is the one asked for. -/
  | absent : DestinationSays asked none (.ok asked)
  /-- Else it is the one that the record shows. -/
  | shown {record : List UInt8} {x : Address} (h : Shows record x) :
      DestinationSays asked (some record) (.ok x)
  /-- A record has to show one. -/
  | unclear {record : List UInt8} (h : ∀ x, ¬ Shows record x) :
      DestinationSays asked (some record) (.error .parseDestination)

/-- What the record of the gateway says under some flags. -/
inductive GatewaySays (flags : UInt32) :
    Option (List UInt8) → Except Error (Option Address) → Prop where
  /-- Without a record there is no gateway. -/
  | absent : GatewaySays flags none (.ok none)
  /-- Nor is there one without the flag, whatever the record. -/
  | unflagged {record : List UInt8} (hflag : flags &&& flagGateway = 0) :
      GatewaySays flags (some record) (.ok none)
  /-- With both it is the one that the record shows. -/
  | shown {record : List UInt8} {x : Address} (hflag : flags &&& flagGateway ≠ 0)
      (h : Shows record x) : GatewaySays flags (some record) (.ok (some x))
  /-- With the flag a record has to show one. -/
  | unclear {record : List UInt8} (hflag : flags &&& flagGateway ≠ 0) (h : ∀ x, ¬ Shows record x) :
      GatewaySays flags (some record) (.error .parseGateway)

/-- What the record of the netmask says beside that of a destination. -/
inductive NetmaskSays (destination : Address) :
    Option (List UInt8) → Option (List UInt8) → Option String → Prop where
  /-- Without a record there is no netmask. -/
  | absent {beside : Option (List UInt8)} : NetmaskSays destination none beside none
  /-- Nor is there one without the record of the destination. -/
  | alone {record : Option (List UInt8)} : NetmaskSays destination record none none
  /-- With both it is the mask for the destination. -/
  | given {record beside : List UInt8} {mask : Address} (h : Masks record destination mask) :
      NetmaskSays destination (some record) (some beside) (some mask.text)

/-- What the record of the interface says about its name and index. -/
inductive InterfaceSays : Option (List UInt8) → Except Error (String × UInt16) → Prop where
  /-- Without a record both are unknown. -/
  | absent : InterfaceSays none (.ok ("", 0))
  /-- So they are if the record is not that of a link with a name. -/
  | other {record : List UInt8} (h : ∀ index size data, ¬ IsLink record index size data) :
      InterfaceSays (some record) (.ok ("", 0))
  /-- Else they are those of the link. -/
  | named {record data : List UInt8} {index : UInt16} {size : Nat}
      (h : IsLink record index size data) (hsize : size ≤ data.length) :
      InterfaceSays (some record)
        (.ok (String.ofList (Utf8.decodeLossy (data.take size)), index))
  /-- The name of a link has to be there to its end. -/
  | cut {record data : List UInt8} {index : UInt16} {size : Nat}
      (h : IsLink record index size data) (hsize : data.length < size) :
      InterfaceSays (some record) (.error .invalidMessageLength)

/-- What chosen records say under some flags about the destination asked for: a route, unless one of
them is not understood; the first of those gives the error. -/
inductive Layout.Says (l : Layout) (flags : UInt32) (asked : Address) :
    Except Error Resolution → Prop where
  /-- The destination is not understood. -/
  | noDestination {e : Error}
      (hd : DestinationSays asked (l.record .destination) (.error e)) :
      Says l flags asked (.error e)
  /-- The gateway is not understood. -/
  | noGateway {destination : Address} {e : Error}
      (hd : DestinationSays asked (l.record .destination) (.ok destination))
      (hg : GatewaySays flags (l.record .gateway) (.error e)) : Says l flags asked (.error e)
  /-- The interface is not understood. -/
  | noInterface {destination : Address} {gateway : Option Address} {e : Error}
      (hd : DestinationSays asked (l.record .destination) (.ok destination))
      (hg : GatewaySays flags (l.record .gateway) (.ok gateway))
      (hi : InterfaceSays (l.record .interface) (.error e)) : Says l flags asked (.error e)
  /-- Everything is understood. -/
  | route {destination : Address} {gateway : Option Address} {netmask : Option String}
      {name : String} {index : UInt16}
      (hd : DestinationSays asked (l.record .destination) (.ok destination))
      (hg : GatewaySays flags (l.record .gateway) (.ok gateway))
      (hn : NetmaskSays destination (l.record .netmask) (l.record .destination) netmask)
      (hi : InterfaceSays (l.record .interface) (.ok (name, index))) :
      Says l flags asked (.ok ⟨destination, gateway, netmask, name, index⟩)

/-- The address in a record is the one that the record shows. -/
theorem recordAddress?_eq_some_iff {record : List UInt8} {x : Address} :
    recordAddress? record = some x ↔ Shows record x := by
  constructor
  · intro h
    match record with
    | [] => cases h
    | [_] => cases h
    | length :: family :: tail =>
      rw [recordAddress?, List.getElem?_cons_succ, List.getElem?_cons_zero] at h
      simp only [List.length_cons, List.drop_succ_cons] at h
      by_cases hinet : family = familyInet
      · rw [if_pos hinet] at h
        subst hinet
        by_cases hlength : 8 ≤ tail.length + 1 + 1
        · rw [if_pos hlength] at h
          match tail, hlength with
          | port :: port' :: tail, hlength =>
            cases h
            have hoctets : 4 ≤ tail.length := by simpa using hlength
            have hshows := Shows.v4 length port port' (Ipv4.ofOctets tail) (tail.drop 4)
            rw [Ipv4.octets_append_drop hoctets] at hshows
            exact hshows
        · rw [if_neg hlength] at h
          cases h
      rw [if_neg hinet] at h
      by_cases hinet6 : family = familyInet6
      · rw [if_pos hinet6] at h
        subst hinet6
        by_cases hlength : 24 ≤ tail.length + 1 + 1
        · rw [if_pos hlength] at h
          cases h
          have hgap : (tail.take 6).length = 6 := by
            rw [List.length_take]
            omega
          have hoctets : 16 ≤ (tail.drop 6).length := by
            rw [List.length_drop]
            omega
          have hshows := Shows.v6 length (tail.take 6) hgap (Ipv6.ofOctets (tail.drop 6))
            ((tail.drop 6).drop 16)
          rw [Ipv6.octets_append_drop hoctets, List.append_assoc, List.take_append_drop] at hshows
          exact hshows
        · rw [if_neg hlength] at h
          cases h
      · rw [if_neg hinet6] at h
        cases h
  · rintro (⟨length, port, port', x, rest⟩ | ⟨length, gap, hgap, x, rest⟩)
    · rfl
    · have hlength : 24 ≤ ([length, familyInet6] ++ gap ++ (x.octets ++ rest)).length := by
        simp only [List.length_append, List.length_cons, List.length_nil, hgap, x.length_octets]
        omega
      have hdrop : ([length, familyInet6] ++ gap ++ (x.octets ++ rest)).drop 8 = x.octets ++ rest :=
        List.drop_left' (by rw [List.length_append, hgap]; rfl)
      show (if 24 ≤ ([length, familyInet6] ++ gap ++ (x.octets ++ rest)).length then
        some (Address.v6 (Ipv6.ofOctets
          (([length, familyInet6] ++ gap ++ (x.octets ++ rest)).drop 8))) else none) = _
      rw [if_pos hlength, hdrop, Ipv6.ofOctets_append]

/-- The record of an address shows that address. -/
theorem shows_addressRecord (x : Address) : Shows (addressRecord x) x := by
  cases x with
  | v4 x => exact .v4 16 0 0 x (List.replicate 8 0)
  | v6 x =>
    rw [addressRecord, List.append_assoc]
    exact .v6 28 (List.replicate 6 0) rfl x (List.replicate 4 0)

/-- A record shows no address exactly if there is none in it. -/
theorem recordAddress?_eq_none_iff {record : List UInt8} :
    recordAddress? record = none ↔ ∀ x, ¬ Shows record x := by
  rw [Option.eq_none_iff_forall_ne_some]
  exact forall_congr' fun x => not_congr recordAddress?_eq_some_iff

/-- A record names an interface exactly if it is that of a link with a name. -/
theorem namesInterface_iff {record : List UInt8} :
    Records.namesInterface record ↔ ∃ index size data, IsLink record index size data := by
  constructor
  · intro h
    simp only [Records.namesInterface, Bool.and_eq_true, decide_eq_true_eq] at h
    obtain ⟨⟨hfamily, hlength⟩, hsize⟩ := h
    match record, hlength with
    | length :: family :: low :: high :: kind :: size :: address :: selector :: data, _ =>
      have hfamily : family = familyLink := hfamily
      exact ⟨_, _, data, hfamily ▸ IsLink.mk length low high kind size address selector data
        (toNat_read16 [low, high] 0) (UInt8.lt_iff_toNat_lt.mp hsize)⟩
  · rintro ⟨_, _, _, ⟨length, low, high, kind, size, address, selector, data, _, hsize⟩⟩
    have hsize : (0 : UInt8) < size := UInt8.lt_iff_toNat_lt.mpr hsize
    simp [Records.namesInterface, hsize]

namespace IsLink

variable {record data : List UInt8} {index : UInt16} {size : Nat}

/-- The index of a link is read off its record. -/
theorem read16_eq (h : IsLink record index size data) : read16 record 2 = index := by
  obtain ⟨length, low, high, kind, size, address, selector, data, hindex, _⟩ := h
  exact UInt16.toNat_inj.mp ((toNat_read16 _ 2).trans hindex.symm)

/-- The name of a link is read off its record, if it is there to its end. -/
theorem recordName?_eq (h : IsLink record index size data) :
    recordName? record = if size ≤ data.length then
      some (String.ofList (Utf8.decodeLossy (data.take size))) else none := by
  obtain ⟨length, low, high, kind, size, address, selector, data, _, _⟩ := h
  have hlength : (8 + size.toNat ≤ data.length + 8) = (size.toNat ≤ data.length) := by
    rw [Nat.add_comm data.length, Nat.add_le_add_iff_left]
  exact ite_congr hlength (fun _ => rfl) (fun _ => rfl)

end IsLink

/-- Beside a destination's record that shows an address, a netmask's record is read as the mask for
that address. -/
theorem recordNetmask?_eq_some_iff {beside record : List UInt8} {x : Address}
    (h : Shows beside x) {text : String} : recordNetmask? record (beside.getD 1 0) = some text ↔
      ∃ mask, Masks record x mask ∧ mask.text = text := by
  cases h with
  | v4 length port port' x rest =>
    show some (Address.v4 (Ipv4.ofOctets (record.drop 4))).text = some text ↔ _
    constructor
    · intro h
      exact ⟨_, .v4 (Ipv4.octets_ofOctets _), Option.some.inj h⟩
    · rintro ⟨_, @⟨_, mask, hmask⟩ | _, rfl⟩
      rw [← mask.ofOctets_octets, hmask, ← Ipv4.octets_ofOctets, Ipv4.ofOctets_octets]
  | v6 length gap hgap x rest =>
    show some (Address.v6 (Ipv6.ofOctets (record.drop 8))).text = some text ↔ _
    constructor
    · intro h
      exact ⟨_, .v6 (Ipv6.octets_ofOctets _), Option.some.inj h⟩
    · rintro ⟨_, _ | @⟨_, mask, hmask⟩, rfl⟩
      rw [← mask.ofOctets_octets, hmask, ← Ipv6.octets_ofOctets, Ipv6.ofOctets_octets]

/-- The destination of an answer. -/
def destinationOf (asked : Address) : Option (List UInt8) → Except Error Address
  | none => .ok asked
  | some record => orFail (recordAddress? record) .parseDestination

/-- The name and the index of the interface of an answer. -/
def interfaceOf : Option (List UInt8) → Except Error (String × UInt16)
  | none => .ok ("", 0)
  | some record =>
    (orFail (recordName? record) .invalidMessageLength).map fun name => (name, read16 record 2)

/-- A route is put together from its parts, one after the other. -/
theorem resolutionOf_eq (flags : UInt32) (asked : Address) (r : Records) :
    resolutionOf flags asked r = (do
      let destination ← destinationOf asked r.destination
      let gateway ← gatewayOf flags r
      let netmask ← netmaskOf r
      let interface ← interfaceOf r.interface
      .ok ⟨destination, gateway, netmask, interface.1, interface.2⟩) := by
  obtain ⟨destination, gateway, netmask, interface⟩ := r
  cases interface with
  | none => cases destination <;> rfl
  | some record =>
    cases h : recordName? record <;> cases destination <;>
      simp only [resolutionOf, destinationOf, interfaceOf, h, orFail] <;> rfl

/-- A destination is read as what its record says. -/
theorem destinationSays_iff {asked : Address} {record : Option (List UInt8)}
    {x : Except Error Address} :
    DestinationSays asked record x ↔ destinationOf asked record = x := by
  constructor
  · rintro (_ | h | h)
    · rfl
    · rw [destinationOf, recordAddress?_eq_some_iff.mpr h, orFail]
    · rw [destinationOf, recordAddress?_eq_none_iff.mpr h, orFail]
  · rintro rfl
    match record with
    | none => exact .absent
    | some record =>
      rw [destinationOf]
      cases h : recordAddress? record with
      | none => exact .unclear (recordAddress?_eq_none_iff.mp h)
      | some x => exact .shown (recordAddress?_eq_some_iff.mp h)

/-- A gateway is read as what its record says. -/
theorem gatewaySays_iff {flags : UInt32} {r : Records} {x : Except Error (Option Address)} :
    GatewaySays flags r.gateway x ↔ gatewayOf flags r = x := by
  rw [gatewayOf]
  generalize r.gateway = record
  constructor
  · rintro (_ | hflag | ⟨hflag, h⟩ | ⟨hflag, h⟩)
    · rfl
    · exact if_pos hflag
    · refine (if_neg hflag).trans ?_
      rw [recordAddress?_eq_some_iff.mpr h]
      rfl
    · refine (if_neg hflag).trans ?_
      rw [recordAddress?_eq_none_iff.mpr h]
      rfl
  · rintro rfl
    match record with
    | none => exact .absent
    | some record =>
      by_cases hflag : flags &&& flagGateway = 0
      · simp only [hflag, ite_true]
        exact .unflagged hflag
      · simp only [hflag, ite_false]
        cases h : recordAddress? record with
        | none => exact .unclear hflag (recordAddress?_eq_none_iff.mp h)
        | some x => exact .shown hflag (recordAddress?_eq_some_iff.mp h)

/-- Every record gives a mask for every address. -/
theorem exists_masks (record : List UInt8) (x : Address) : ∃ mask, Masks record x mask := by
  cases x with
  | v4 x => exact ⟨_, .v4 (Ipv4.octets_ofOctets (record.drop 4))⟩
  | v6 x => exact ⟨_, .v6 (Ipv6.octets_ofOctets (record.drop 8))⟩

/-- A netmask is read as what its record says, if the destination is understood. -/
theorem netmaskSays_iff {asked destination : Address} {r : Records} {x : Option String}
    (hd : DestinationSays asked r.destination (.ok destination)) :
    NetmaskSays destination r.netmask r.destination x ↔ netmaskOf r = .ok x := by
  rw [netmaskOf]
  generalize r.destination = beside at *
  generalize r.netmask = record
  constructor
  · rintro (_ | _ | h)
    · rfl
    · cases record <;> rfl
    · cases hd with
      | shown hshows =>
        simp only [(recordNetmask?_eq_some_iff hshows).mpr ⟨_, h, rfl⟩]
        rfl
  · intro h
    match record, beside, hd with
    | none, _, _ =>
      cases h
      exact .absent
    | some record, none, _ =>
      cases h
      exact .alone
    | some record, some beside, .shown hshows =>
      dsimp only at h
      cases htext : recordNetmask? record (beside.getD 1 0) with
      | none =>
        rw [htext] at h
        cases h
      | some text =>
        rw [htext] at h
        cases h
        obtain ⟨mask, hmask, rfl⟩ := (recordNetmask?_eq_some_iff hshows).mp htext
        exact .given hmask

/-- There is no error in a netmask, if the destination is understood. -/
theorem exists_netmaskOf {asked destination : Address} {r : Records}
    (hd : DestinationSays asked r.destination (.ok destination)) : ∃ x, netmaskOf r = .ok x := by
  suffices h : ∃ x, NetmaskSays destination r.netmask r.destination x by
    obtain ⟨x, hx⟩ := h
    exact ⟨x, (netmaskSays_iff hd).mp hx⟩
  match r.netmask, r.destination with
  | none, _ => exact ⟨_, .absent⟩
  | some record, none => exact ⟨_, .alone⟩
  | some record, some beside =>
    obtain ⟨mask, hmask⟩ := exists_masks record destination
    exact ⟨_, .given hmask⟩

/-- The name and the index of an interface are read as what its record says. -/
theorem interfaceSays_iff {record : Option (List UInt8)} {x : Except Error (String × UInt16)} :
    InterfaceSays record x ↔ interfaceOf (record.filter Records.namesInterface) = x := by
  constructor
  · rintro (_ | h | ⟨h, hsize⟩ | ⟨h, hsize⟩)
    · rfl
    · have hnames : ¬ Records.namesInterface _ := mt namesInterface_iff.mp
        fun ⟨_, _, _, hlink⟩ => h _ _ _ hlink
      rw [Option.filter_some, if_neg hnames]
      rfl
    · rw [Option.filter_some, if_pos (namesInterface_iff.mpr ⟨_, _, _, h⟩), interfaceOf,
        h.recordName?_eq, if_pos hsize, h.read16_eq]
      rfl
    · rw [Option.filter_some, if_pos (namesInterface_iff.mpr ⟨_, _, _, h⟩), interfaceOf,
        h.recordName?_eq, if_neg (Nat.not_le.mpr hsize)]
      rfl
  · rintro rfl
    match record with
    | none => exact .absent
    | some record =>
      rw [Option.filter_some]
      by_cases hnames : Records.namesInterface record
      · obtain ⟨index, size, data, hlink⟩ := namesInterface_iff.mp hnames
        rw [if_pos hnames, interfaceOf, hlink.recordName?_eq, hlink.read16_eq]
        by_cases hsize : size ≤ data.length
        · rw [if_pos hsize]
          exact .named hlink hsize
        · rw [if_neg hsize]
          exact .cut hlink (Nat.not_le.mp hsize)
      · rw [if_neg hnames]
        exact .other fun _ _ _ hlink => hnames (namesInterface_iff.mpr ⟨_, _, _, hlink⟩)

/-- The records of a layout are read as what they say. -/
theorem Layout.says_iff {l : Layout} {flags : UInt32} {asked : Address}
    {x : Except Error Resolution} :
    l.Says flags asked x ↔ resolutionOf flags asked l.records = x := by
  have hdestination {x : Except Error Address} :
      DestinationSays asked (l.record .destination) x ↔
        destinationOf asked l.records.destination = x := destinationSays_iff
  have hgateway {x : Except Error (Option Address)} :
      GatewaySays flags (l.record .gateway) x ↔ gatewayOf flags l.records = x :=
    gatewaySays_iff (r := l.records)
  have hinterface {x : Except Error (String × UInt16)} :
      InterfaceSays (l.record .interface) x ↔ interfaceOf l.records.interface = x :=
    interfaceSays_iff
  rw [resolutionOf_eq]
  constructor
  · intro h
    cases h with
    | noDestination hd =>
      rw [hdestination.mp hd]
      rfl
    | noGateway hd hg =>
      rw [hdestination.mp hd, hgateway.mp hg]
      rfl
    | noInterface hd hg hi =>
      -- The netmask is read in front of the interface, but never gives an error of its own.
      obtain ⟨netmask, hn⟩ := exists_netmaskOf (r := l.records) hd
      rw [hdestination.mp hd, hgateway.mp hg, hn, hinterface.mp hi]
      rfl
    | route hd hg hn hi =>
      rw [hdestination.mp hd, hgateway.mp hg, (netmaskSays_iff (r := l.records) hd).mp hn,
        hinterface.mp hi]
      rfl
  · rintro rfl
    cases hd : destinationOf asked l.records.destination with
    | error e => exact .noDestination (hdestination.mpr hd)
    | ok destination =>
      have hd := hdestination.mpr hd
      cases hg : gatewayOf flags l.records with
      | error e => exact .noGateway hd (hgateway.mpr hg)
      | ok gateway =>
        have hg := hgateway.mpr hg
        obtain ⟨netmask, hn⟩ := exists_netmaskOf (r := l.records) hd
        rw [hn]
        have hn := (netmaskSays_iff (r := l.records) hd).mpr hn
        cases hi : interfaceOf l.records.interface with
        | error e => exact .noInterface hd hg (hinterface.mpr hi)
        | ok interface => exact .route hd hg hn (hinterface.mpr hi)

/-- A name that was written is read back. -/
theorem InterfaceSays.encoded {record rest : List UInt8} {index : UInt16} {name : List Char}
    (h : IsLink record index (Utf8.encode name).length (Utf8.encode name ++ rest)) :
    InterfaceSays (some record) (.ok (String.ofList name, index)) := by
  have hsays := InterfaceSays.named h (by rw [List.length_append]; omega)
  rw [List.take_left, Utf8.decodeLossy_encode] at hsays
  exact hsays

namespace Answer

variable {process sequence : Int32}

/-- An answer is read as what its records say. They say one thing, and it depends on nothing but the
flags and the records of four slots. -/
theorem decodeReply_says (a : Answer process sequence) (asked : Address) :
    (∃ x, a.layout.Says a.header.flags asked x ∧
      (∀ y, a.layout.Says a.header.flags asked y → y = x) ∧
      decodeReply a.message process sequence asked = x.map .resolved) ∧
    ∀ {process' sequence' : Int32} (b : Answer process' sequence'),
      b.header.flags = a.header.flags →
      (∀ s ∈ [Slot.destination, .gateway, .netmask, .interface],
        b.layout.record s = a.layout.record s) →
      decodeReply b.message process' sequence' asked =
        decodeReply a.message process sequence asked := by
  refine ⟨⟨_, Layout.says_iff.mpr rfl, fun y hy => (Layout.says_iff.mp hy).symm,
    a.decodeReply_message asked⟩, fun b hflags hrecord => ?_⟩
  have hrecords : b.layout.records = a.layout.records := by
    simp only [Layout.records, hrecord .destination (by decide), hrecord .gateway (by decide),
      hrecord .netmask (by decide), hrecord .interface (by decide)]
  rw [a.decodeReply_message, b.decodeReply_message, hflags, hrecords]

/-- A default route whose netmask has an empty record, with the record of a slot that says
nothing. -/
def defaultRoute (cloneMask : Option Entry) : Layout
  | .destination => some <|
    .ofRecord (addressRecord (.v4 ⟨0, 0, 0, 0⟩)) (by decide) (by decide) (by decide)
  | .gateway => some <|
    .ofRecord (addressRecord (.v4 ⟨192, 168, 1, 1⟩)) (by decide) (by decide) (by decide)
  | .netmask => some .empty
  | .cloneMask => cloneMask
  | .interface => some <|
    .ofRecord [12, familyLink, 4, 0, 0, 3, 0, 0, 101, 110, 48, 0]
      (by decide) (by decide) (by decide)
  | _ => none

/-- A default route is read, and a record of odd length in front of that of the interface makes no
difference. -/
theorem decodeReply_defaultRoute :
    let a := write 10 3 4 0 flagGateway (defaultRoute none) ⟨.destination, rfl⟩
    let b := write 11 7 4 2 flagGateway
      (defaultRoute (some (.ofRecord [5, 0, 0, 0, 255] (by decide) (by decide) (by decide))))
      ⟨.destination, rfl⟩
    decodeReply a.message 10 3 (.v4 ⟨127, 0, 0, 1⟩) =
      .ok (.resolved ⟨.v4 ⟨0, 0, 0, 0⟩, some (.v4 ⟨192, 168, 1, 1⟩),
        some (Address.v4 ⟨0, 0, 0, 0⟩).text, "en0", 4⟩) ∧
    decodeReply b.message 11 7 (.v4 ⟨127, 0, 0, 1⟩) =
      decodeReply a.message 10 3 (.v4 ⟨127, 0, 0, 1⟩) := by
  intro a b
  obtain ⟨⟨x, _, hunique, hx⟩, hsame⟩ := a.decodeReply_says (.v4 ⟨127, 0, 0, 1⟩)
  have hshows (x : Ipv4) : Shows (addressRecord (.v4 x)) (.v4 x) :=
    .v4 16 0 0 x (List.replicate 8 0)
  have hmask : Masks [] (.v4 ⟨0, 0, 0, 0⟩) (.v4 ⟨0, 0, 0, 0⟩) := .v4 rfl
  have hlink : IsLink [12, familyLink, 4, 0, 0, 3, 0, 0, 101, 110, 48, 0] 4
      (Utf8.encode ['e', 'n', '0']).length (Utf8.encode ['e', 'n', '0'] ++ [0]) :=
    .mk 12 4 0 0 3 0 0 [101, 110, 48, 0] rfl (by decide)
  have hroute := hunique _ (.route (.shown (hshows ⟨0, 0, 0, 0⟩))
    (.shown (by decide) (hshows ⟨192, 168, 1, 1⟩)) (.given hmask) (.encoded hlink))
  refine ⟨?_, hsame b rfl (by decide)⟩
  rw [hx, ← hroute]
  rfl

end Answer

end PacketTunnel.Route
