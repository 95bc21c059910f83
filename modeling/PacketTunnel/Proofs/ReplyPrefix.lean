import PacketTunnel.Proofs.RecordPrefix

/-!
# Parts of a message

The front part of a message has the records of the whole one, up to the last that is announced: of
that one it may have less. An address is read from it alike or not at all. But a netmask is then
read without its last octets, and a link that has become too short for its name counts as one
without a name, so such a part gives another route than the whole message. These are the only ways
in which it does.
-/

namespace PacketTunnel.Route

open Net Text

/-- The header of a message and the records of the slots that it announces. -/
def found? (message : List UInt8) : Option (Header × List (Slot × List UInt8)) := do
  let header ← Header.decode? message
  let found ← Records.list? header.addresses Slot.all (payloadOf header message)
  some (header, found)

/-- The ways in which a part of a message gives a route that the whole one does not: the last record
is a netmask that loses an octet other than zero, or a link that loses the place of its name. -/
inductive Misread (part whole : List UInt8) : Prop where
  /-- The part's netmask is another one for the destination. -/
  | netmask {header : Header} {before : List (Slot × List UInt8)}
      {beside cut record : List UInt8} {x mask mask' : Address}
      (hpart : found? part = some (header, before ++ [(.netmask, cut)]))
      (hwhole : found? whole = some (header, before ++ [(.netmask, record)]))
      (hbeside : (.destination, beside) ∈ before) (hx : Shows beside x)
      (hcut : Masks cut x mask) (hrecord : Masks record x mask') (hne : mask ≠ mask') :
      Misread part whole
  /-- The part's link has become too short for one. -/
  | interface {header : Header} {before : List (Slot × List UInt8)}
      {cut record data : List UInt8} {index : UInt16} {size : Nat}
      (hpart : found? part = some (header, before ++ [(.interface, cut)]))
      (hwhole : found? whole = some (header, before ++ [(.interface, record)]))
      (hcut : cut.length < 8) (hrecord : IsLink record index size data) : Misread part whole

section Prefix

variable {process sequence : Int32} {asked : Address}

theorem found?_eq_some_iff {message : List UInt8} {header : Header}
    {found : List (Slot × List UInt8)} : found? message = some (header, found) ↔
      Header.decode? message = some header ∧
        Records.list? header.addresses Slot.all (payloadOf header message) = some found := by
  simp only [found?, Option.bind_eq_bind, Option.bind_eq_some_iff, Option.some.injEq, Prod.mk.injEq]
  constructor
  · rintro ⟨_, hdecode, _, hfound, rfl, rfl⟩
    exact ⟨hdecode, hfound⟩
  · rintro ⟨hdecode, hfound⟩
    exact ⟨header, hdecode, found, hfound, rfl, rfl⟩

/-- An answer means what the records found in it mean. -/
theorem decodeReply_of_found {message : List UInt8} {header : Header}
    {found : List (Slot × List UInt8)} (h : found? message = some (header, found))
    (hannounces : header.Announces process sequence) :
    decodeReply message process sequence asked =
      (resolutionOf header.flags asked (Records.enter {} found)).map .resolved := by
  obtain ⟨hdecode, hfound⟩ := found?_eq_some_iff.mp h
  rw [decodeReply_eq, hdecode]
  show outcomeOf header (recordsOf? header message) process sequence asked = _
  rw [recordsOf?, Records.collect_eq_map_enter, hfound, Option.map_some,
    outcomeOf_of_announces hannounces]
  show (resolutionOf _ _ _ >>= fun route => Except.ok (Outcome.resolved route)) = _
  cases resolutionOf header.flags asked (Records.enter {} found) <;> rfl

/-- In an answer the records are found in their places. -/
theorem Answer.found?_message (a : Answer process sequence) : found? a.message =
    (Records.list? a.header.addresses Slot.all a.layout.payload).map (a.header, ·) := by
  have hdecode : Header.decode? a.message = some a.header := Header.decode?_append a.decode_front _
  rw [found?, hdecode]
  show (Records.list? _ _ (payloadOf a.header a.message)).bind _ = _
  rw [a.payloadOf_message]
  cases Records.list? a.header.addresses Slot.all a.layout.payload <;> rfl

/-- In a message that gives a route the records are found. -/
theorem exists_found_of_resolved {message : List UInt8} {route : Resolution}
    (h : decodeReply message process sequence asked = .ok (.resolved route)) :
    ∃ header found, found? message = some (header, found) ∧
      header.Announces process sequence ∧
      resolutionOf header.flags asked (Records.enter {} found) = .ok route := by
  rw [decodeReply_eq, bind_eq_ok_iff] at h
  obtain ⟨header, hdecode, h⟩ := h
  obtain ⟨hannounces, r, hr, hroute⟩ := outcomeOf_eq_resolved_iff.mp h
  rw [recordsOf?, Records.collect_eq_map_enter, Option.map_eq_some_iff] at hr
  obtain ⟨found, hfound, rfl⟩ := hr
  exact ⟨header, found, found?_eq_some_iff.mpr ⟨orFail_eq_ok_iff.mp hdecode, hfound⟩, hannounces,
    hroute⟩

/-- A part of a message has the header of the whole one and its records, but perhaps less of the
last one. -/
theorem found?_part {part whole : List UInt8} (h : part <+: whole) {header : Header}
    {cut : List (Slot × List UInt8)} (hpart : found? part = some (header, cut)) :
    ∃ found, found? whole = some (header, found) ∧ Records.Shortened cut found := by
  obtain ⟨hdecode, hcut⟩ := found?_eq_some_iff.mp hpart
  have hpayload : payloadOf header part <+: payloadOf header whole := (h.take _).drop _
  obtain ⟨found, hfound, hshort⟩ := Records.list?_part hpayload hcut
  obtain ⟨more, rfl⟩ := h
  exact ⟨found, found?_eq_some_iff.mpr ⟨Header.decode?_append hdecode more, hfound⟩, hshort⟩

/-- No slot has two records. -/
theorem nodup_of_found {message : List UInt8} {header : Header}
    {found : List (Slot × List UInt8)} (h : found? message = some (header, found)) :
    (found.map Prod.fst).Nodup := by
  rw [Records.map_fst_of_list? (found?_eq_some_iff.mp h).2]
  exact List.Pairwise.filter _ (by decide : Slot.all.Nodup)

end Prefix

section Last

variable {part whole : List UInt8} {header : Header} {before : List (Slot × List UInt8)}
  {cut record : List UInt8}

theorem last_inj {header' : Header} {before' : List (Slot × List UInt8)}
    {last last' : Slot × List UInt8}
    (h : some (header, before ++ [last]) = some (header', before' ++ [last'])) :
    header = header' ∧ before = before' ∧ last = last' := by
  obtain ⟨rfl, hfound⟩ := Prod.mk.inj (Option.some.inj h)
  obtain ⟨rfl, hlast⟩ := List.append_inj' hfound rfl
  exact ⟨rfl, rfl, List.head_eq_of_cons_eq hlast⟩

/-- A part without records is not misread. -/
theorem not_misread_of_nil (hpart : found? part = some (header, [])) : ¬ Misread part whole := by
  rintro (⟨hpart', -⟩ | ⟨hpart', -⟩) <;> rw [hpart] at hpart' <;> simp at hpart'

/-- Nor is one that ends with the record of another slot. -/
theorem not_misread_of_ne {slot : Slot}
    (hpart : found? part = some (header, before ++ [(slot, cut)])) (hnetmask : slot ≠ .netmask)
    (hinterface : slot ≠ .interface) : ¬ Misread part whole := by
  rintro (⟨hpart', -⟩ | ⟨hpart', -⟩)
  · obtain ⟨-, -, hlast⟩ := last_inj (hpart.symm.trans hpart')
    exact hnetmask (Prod.mk.inj hlast).1
  · obtain ⟨-, -, hlast⟩ := last_inj (hpart.symm.trans hpart')
    exact hinterface (Prod.mk.inj hlast).1

/-- Masks for a destination are misread if they differ. -/
theorem misread_netmask_iff (hpart : found? part = some (header, before ++ [(.netmask, cut)]))
    (hwhole : found? whole = some (header, before ++ [(.netmask, record)])) :
    Misread part whole ↔ ∃ beside x mask mask', (Slot.destination, beside) ∈ before ∧
      Shows beside x ∧ Masks cut x mask ∧ Masks record x mask' ∧ mask ≠ mask' := by
  constructor
  · rintro (⟨hpart', hwhole', hbeside, hx, hcut, hrecord, hne⟩ | ⟨hpart', -⟩)
    · obtain ⟨-, rfl, hlast⟩ := last_inj (hpart.symm.trans hpart')
      obtain ⟨-, -, hlast'⟩ := last_inj (hwhole.symm.trans hwhole')
      cases hlast
      cases hlast'
      exact ⟨_, _, _, _, hbeside, hx, hcut, hrecord, hne⟩
    · obtain ⟨-, -, hlast⟩ := last_inj (hpart.symm.trans hpart')
      cases hlast
  · rintro ⟨beside, x, mask, mask', hbeside, hx, hcut, hrecord, hne⟩
    exact .netmask hpart hwhole hbeside hx hcut hrecord hne

/-- A link is misread if nothing of its name is left. -/
theorem misread_interface_iff (hpart : found? part = some (header, before ++ [(.interface, cut)]))
    (hwhole : found? whole = some (header, before ++ [(.interface, record)])) :
    Misread part whole ↔ cut.length < 8 ∧ ∃ index size data, IsLink record index size data := by
  constructor
  · rintro (⟨hpart', -⟩ | ⟨hpart', hwhole', hcut, hrecord⟩)
    · obtain ⟨-, -, hlast⟩ := last_inj (hpart.symm.trans hpart')
      cases hlast
    · obtain ⟨-, rfl, hlast⟩ := last_inj (hpart.symm.trans hpart')
      obtain ⟨-, -, hlast'⟩ := last_inj (hwhole.symm.trans hwhole')
      cases hlast
      cases hlast'
      exact ⟨hcut, _, _, _, hrecord⟩
  · rintro ⟨hcut, index, size, data, hrecord⟩
    exact .interface hpart hwhole hcut hrecord

/-- Two records of a netmask give the same one unless their masks for the destination differ. -/
theorem NetmaskSays.eq_iff {destination : Address} {beside : Option (List UInt8)}
    {netmask netmask' : Option String} (hcut : NetmaskSays destination (some cut) beside netmask)
    (hrecord : NetmaskSays destination (some record) beside netmask') :
    netmask' = netmask ↔ ¬ ∃ mask mask', beside.isSome ∧ Masks cut destination mask ∧
      Masks record destination mask' ∧ mask ≠ mask' := by
  cases hcut with
  | alone =>
    cases hrecord
    exact iff_of_true rfl fun ⟨_, _, h, _⟩ => (by cases h)
  | @given _ beside mask hcut =>
    cases hrecord with
    | @given _ _ mask' hrecord =>
      constructor
      · rintro htext ⟨m, m', -, hm, hm', hne⟩
        rw [hm.eq hcut, hm'.eq hrecord] at hne
        exact hne (hcut.eq_of_text hrecord (Option.some.inj htext).symm)
      · intro hnone
        have heq : mask = mask' := by
          by_contra hne
          exact hnone ⟨mask, mask', rfl, hcut, hrecord, hne⟩
        rw [heq]

/-- What the records of a whole message describe, compared with the route of a part that may be
misread. -/
inductive Compares (route : Resolution) (misread : Prop) : Except Error Resolution → Prop where
  /-- It is the same route. -/
  | same (h : ¬ misread) : Compares route misread (.ok route)
  /-- It is another route to the same destination through the same gateway. -/
  | other {route' : Resolution} (h : misread) (hne : route' ≠ route)
      (hdestination : route'.destination = route.destination)
      (hgateway : route'.gateway = route.gateway) : Compares route misread (.ok route')
  /-- A name runs past the record of its link. -/
  | cut (h : misread) : Compares route misread (.error .invalidMessageLength)

variable {flags : UInt32} {asked : Address} {route : Resolution}

/-- A netmask at the end is read with or without its last octets. -/
theorem compares_netmask (hpart : found? part = some (header, before ++ [(.netmask, cut)]))
    (hwhole : found? whole = some (header, before ++ [(.netmask, record)]))
    (hroute : resolutionOf flags asked ((Records.enter {} before).put .netmask cut) = .ok route) :
    Compares route (Misread part whole)
      (resolutionOf flags asked ((Records.enter {} before).put .netmask record)) := by
  have hnodup : (before.map Prod.fst).Nodup := by
    have hall := nodup_of_found hpart
    rw [List.map_append] at hall
    exact (List.nodup_append.mp hall).1
  obtain ⟨hcut, netmask, hrecord, hwholeRoute⟩ := resolutionOf_put_netmask hroute record
  have hdestination : DestinationSays asked (Records.enter {} before).destination
      (.ok route.destination) := destinationSays_iff.mpr (resolutionOf_eq_ok_iff.mp hroute).1
  have hshows {beside : List UInt8}
      (hbeside : (Records.enter {} before).destination = some beside) :
      Shows beside route.destination := by
    rw [hbeside] at hdestination
    cases hdestination with
    | shown hx => exact hx
  have hsame : netmask = route.netmask ↔ ¬ Misread part whole := by
    rw [hcut.eq_iff hrecord, misread_netmask_iff hpart hwhole]
    refine not_congr ⟨?_, ?_⟩
    · rintro ⟨mask, mask', hbeside, hmask, hmask', hne⟩
      obtain ⟨beside, hbeside⟩ := Option.isSome_iff_exists.mp hbeside
      exact ⟨beside, route.destination, mask, mask',
        (Records.destination_enter_iff hnodup).mp hbeside, hshows hbeside, hmask, hmask', hne⟩
    · rintro ⟨beside, x, mask, mask', hmem, hx, hmask, hmask', hne⟩
      have hbeside := (Records.destination_enter_iff hnodup).mpr hmem
      rw [hx.eq (hshows hbeside)] at hmask hmask'
      exact ⟨mask, mask', Option.isSome_of_eq_some hbeside, hmask, hmask', hne⟩
  rw [hwholeRoute]
  by_cases hmisread : Misread part whole
  · refine .other hmisread (fun heq => ?_) rfl rfl
    exact hsame.mp (congrArg Resolution.netmask heq) hmisread
  · rw [hsame.mpr hmisread]
    exact .same hmisread

/-- A link at the end is read with or without its name. -/
theorem compares_interface (hpart : found? part = some (header, before ++ [(.interface, cut)]))
    (hwhole : found? whole = some (header, before ++ [(.interface, record)]))
    (h : cut <+: record)
    (hroute : resolutionOf flags asked ((Records.enter {} before).put .interface cut) = .ok route) :
    Compares route (Misread part whole)
      (resolutionOf flags asked ((Records.enter {} before).put .interface record)) := by
  have hnone : (Records.enter {} before).interface = none := by
    have hall := nodup_of_found hpart
    rw [List.map_append] at hall
    refine Records.enter_of_notMem Records.interface Records.interface_put (fun hmem => ?_) _
    exact (List.nodup_append.mp hall).2.2 _ hmem _ (List.mem_singleton_self _) rfl
  obtain ⟨hcut, x, hrecord, hwholeRoute⟩ := resolutionOf_put_interface hnone hroute record
  have hmisread := misread_interface_iff hpart hwhole
  rw [hwholeRoute]
  rcases Nat.lt_or_ge cut.length 8 with hlt | hge
  · have hunnamed := Except.ok.inj (hcut.eq_of_short hlt)
    by_cases hlink : ∃ index size data, IsLink record index size data
    · have hmisread := hmisread.mpr ⟨hlt, hlink⟩
      obtain ⟨index, size, data, hlink⟩ := hlink
      cases x with
      | error e =>
        cases hrecord with
        | cut => exact .cut hmisread
      | ok interface =>
        refine .other hmisread (fun heq => hlink.ne_unnamed ?_) rfl rfl
        rw [← hunnamed, ← congrArg Resolution.interfaceName heq,
          ← congrArg Resolution.interfaceIndex heq]
        exact hrecord
    · have hother : InterfaceSays (some record) (.ok ("", 0)) :=
        .other fun index size data h => hlink ⟨index, size, data, h⟩
      rw [← hunnamed] at hother
      rw [hrecord.eq hother]
      exact .same fun h => hlink (hmisread.mp h).2
  · rw [hrecord.eq (hcut.of_part h hge)]
    exact .same fun h => Nat.not_le.mpr (hmisread.mp h).1 hge

end Last

/-- What becomes of a message of which a part gives a route: it gives the same route unless the part
is misread, and in any case the same destination and gateway, or its link has no room for its
name. -/
theorem decodeReply_part {part whole : List UInt8} (h : part <+: whole)
    (process sequence : Int32) (asked : Address) {route : Resolution}
    (hroute : decodeReply part process sequence asked = .ok (.resolved route)) :
    (decodeReply whole process sequence asked = .ok (.resolved route) ↔ ¬ Misread part whole) ∧
      (decodeReply whole process sequence asked = .error .invalidMessageLength ∨
        ∃ route', decodeReply whole process sequence asked = .ok (.resolved route') ∧
          route'.destination = route.destination ∧ route'.gateway = route.gateway) := by
  obtain ⟨header, cut, hpart, hannounces, hresolution⟩ := exists_found_of_resolved hroute
  obtain ⟨found, hwhole, hshort⟩ := found?_part h hpart
  rw [decodeReply_of_found hwhole hannounces]
  have hcompares : Compares route (Misread part whole)
      (resolutionOf header.flags asked (Records.enter {} found)) := by
    cases hshort with
    | nil =>
      rw [hresolution]
      exact .same (not_misread_of_nil hpart)
    | @last before slot cut record hfront =>
      rw [Records.enter_append] at hresolution ⊢
      by_cases hnetmask : slot = .netmask
      · subst hnetmask
        exact compares_netmask hpart hwhole hresolution
      by_cases hinterface : slot = .interface
      · subst hinterface
        exact compares_interface hpart hwhole hfront hresolution
      · rw [resolutionOf_put_of_part hfront hnetmask hinterface hresolution]
        exact .same (not_misread_of_ne hpart hnetmask hinterface)
  generalize resolutionOf header.flags asked (Records.enter {} found) = x at hcompares
  cases hcompares with
  | same hmisread => exact ⟨iff_of_true rfl hmisread, .inr ⟨route, rfl, rfl, rfl⟩⟩
  | @other route' hmisread hne hdestination hgateway =>
    refine ⟨iff_of_false (fun heq => hne ?_) (not_not_intro hmisread),
      .inr ⟨route', rfl, hdestination, hgateway⟩⟩
    cases heq
    rfl
  | cut hmisread =>
    exact ⟨iff_of_false (fun heq => (by cases heq)) (not_not_intro hmisread), .inl rfl⟩

/-- A route to a host through an interface. -/
def hostRoute : Layout
  | .destination => some <|
    .ofRecord (addressRecord (.v4 ⟨10, 1, 0, 0⟩)) (by decide) (by decide) (by decide)
  | .interface => some <|
    .ofRecord [12, familyLink, 1, 0, 24, 3, 0, 0, 108, 111, 48, 0]
      (by decide) (by decide) (by decide)
  | _ => none

/-- Seven bytes of a link count as no link, so the interface is lost with the place of its name. -/
theorem decodeReply_part_hostRoute :
    let whole := (Answer.write 1 1 getKind 0 flagUp hostRoute ⟨.destination, rfl⟩).message
    let route : Resolution := ⟨.v4 ⟨10, 1, 0, 0⟩, none, none, "", 0⟩
    whole.take 115 <+: whole ∧
      decodeReply (whole.take 115) 1 1 (.v4 ⟨10, 1, 0, 0⟩) = .ok (.resolved route) ∧
      Misread (whole.take 115) whole ∧
      decodeReply whole 1 1 (.v4 ⟨10, 1, 0, 0⟩) ≠ .ok (.resolved route) := by
  intro whole route
  let answer := Answer.write 1 1 getKind 0 flagUp hostRoute ⟨.destination, rfl⟩
  let record : List UInt8 := [12, familyLink, 1, 0, 24, 3, 0, 0, 108, 111, 48, 0]
  let before := [(Slot.destination, addressRecord (.v4 ⟨10, 1, 0, 0⟩))]
  have hpart : found? (whole.take 115) =
      some (answer.header, before ++ [(.interface, record.take 7)]) := by cbv
  have hwhole : found? whole = some (answer.header, before ++ [(.interface, record)]) :=
    answer.found?_message.trans (by cbv)
  have hlink : IsLink record 1 3 [108, 111, 48, 0] :=
    .mk 12 1 0 24 3 0 0 [108, 111, 48, 0] rfl (by decide)
  have hmisread := Misread.interface hpart hwhole (by decide) hlink
  have hfront : whole.take 115 <+: whole := List.take_prefix 115 whole
  have hannounces : answer.header.Announces 1 1 := ⟨rfl, rfl, rfl, rfl, by decide⟩
  have hroute : decodeReply (whole.take 115) 1 1 (.v4 ⟨10, 1, 0, 0⟩) = .ok (.resolved route) :=
    (decodeReply_of_found hpart hannounces).trans rfl
  exact ⟨hfront, hroute, hmisread, fun hsame =>
    (decodeReply_part hfront 1 1 _ hroute).1.mp hsame hmisread⟩

/-- A route to a network of 256 addresses. -/
def networkRoute : Layout
  | .destination => some <|
    .ofRecord (addressRecord (.v4 ⟨10, 1, 0, 0⟩)) (by decide) (by decide) (by decide)
  | .netmask => some <|
    .ofRecord [8, 0, 0, 0, 255, 255, 255, 0] (by decide) (by decide) (by decide)
  | _ => none

/-- Without its last two bytes the answer gives a larger network, so a part that is read is not
always read as the whole. -/
theorem not_always_read_alike : ¬ ∀ (part whole : List UInt8) (process sequence : Int32)
    (asked : Address) (route : Resolution), part <+: whole →
      decodeReply part process sequence asked = .ok (.resolved route) →
      decodeReply whole process sequence asked = .ok (.resolved route) := by
  intro halways
  let answer := Answer.write 1 1 getKind 0 flagUp networkRoute ⟨.destination, rfl⟩
  let whole := answer.message
  let record : List UInt8 := [8, 0, 0, 0, 255, 255, 255, 0]
  let before := [(Slot.destination, addressRecord (.v4 ⟨10, 1, 0, 0⟩))]
  have hannounces : answer.header.Announces 1 1 := ⟨rfl, rfl, rfl, rfl, by decide⟩
  have hpart : found? (whole.take 114) =
      some (answer.header, before ++ [(.netmask, record.take 6)]) := by cbv
  have hwhole : found? whole = some (answer.header, before ++ [(.netmask, record)]) :=
    answer.found?_message.trans (by cbv)
  let route (mask : Address) : Resolution :=
    ⟨.v4 ⟨10, 1, 0, 0⟩, none, some mask.text, "", 0⟩
  have hlarger : decodeReply (whole.take 114) 1 1 (.v4 ⟨10, 1, 0, 0⟩) =
      .ok (.resolved (route (.v4 ⟨255, 255, 0, 0⟩))) :=
    (decodeReply_of_found hpart hannounces).trans rfl
  have hroute : decodeReply whole 1 1 (.v4 ⟨10, 1, 0, 0⟩) =
      .ok (.resolved (route (.v4 ⟨255, 255, 255, 0⟩))) :=
    (decodeReply_of_found hwhole hannounces).trans rfl
  have hfront : whole.take 114 <+: whole := List.take_prefix 114 whole
  have hsame := hroute.symm.trans (halways _ _ _ _ _ _ hfront hlarger)
  have htext := congrArg Resolution.netmask (Outcome.resolved.inj (Except.ok.inj hsame))
  have hmask := Ipv4.eq_of_chars_eq (String.ofList_injective (Option.some.inj htext))
  exact absurd hmask (by decide)

end PacketTunnel.Route
