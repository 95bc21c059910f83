import PacketTunnel.Proofs.AddressOctets
import PacketTunnel.Proofs.NumeralText

/-!
# Addresses, read as they were written

The octets and the groups of an address are numerals with a mark between them. Groups are read until
no other one follows, which is so in front of the two colons that stand for a run of zero groups;
the run that is left out is one, and as many zeros are filled in. A group in hexadecimal digits is
never mistaken for the first octet of an IPv4 address, since no dot follows it.
-/

namespace PacketTunnel.Net

open Text Numeral

theorem expectChar?_cons (c : Char) (rest : List Char) : expectChar? c (c :: rest) = some rest :=
  if_pos rfl

theorem expectChar?_eq_none {c : Char} {text : List Char} (h : text.head? ≠ some c) :
    expectChar? c text = none := by
  cases text with
  | nil => rfl
  | cons d rest => exact if_neg fun heq => h (congrArg some heq)

namespace Ipv4

theorem keeps_octet (b : UInt8) : octetLimits.Keeps b.toNat where
  low := by decide
  high := by decide
  short most hmost := by
    obtain rfl := Option.some.inj hmost
    exact ⟨by decide, Nat.lt_trans b.toNat_lt (by decide)⟩
  small := b.toNat_lt

theorem readOctet?_decimal (b : UInt8) {rest : List Char} (h : Stops (isDigit 10) rest) :
    readOctet? (decimal b.toNat ++ rest) = some (b, rest) := by
  have hread : Numeral.read? octetLimits (decimal b.toNat ++ rest) = some (b.toNat, rest) :=
    read?_toDigits (keeps_octet b) h
  rw [readOctet?, hread]
  simp only [Option.bind_eq_bind, Option.bind_some, Nat.toUInt8_eq, UInt8.ofNat_toNat]

/-- A dot ends the digits of an octet. -/
theorem stops_dot (rest : List Char) : Stops (isDigit 10) ('.' :: rest) :=
  stops_cons (by decide) rest

/-- A written address is read off the front of a text. -/
theorem read?_chars (x : Ipv4) {rest : List Char} (h : Stops (isDigit 10) rest) :
    read? (x.chars ++ rest) = some (x, rest) := by
  have hchars : x.chars ++ rest = decimal x.a.toNat ++ '.' :: (decimal x.b.toNat ++
      '.' :: (decimal x.c.toNat ++ '.' :: (decimal x.d.toNat ++ rest))) := by
    simp only [chars, List.append_assoc, List.cons_append]
  rw [hchars, read?, readOctet?_decimal x.a (stops_dot _)]
  simp only [Option.bind_eq_bind, Option.bind_some, expectChar?_cons,
    readOctet?_decimal x.b (stops_dot _), readOctet?_decimal x.c (stops_dot _),
    readOctet?_decimal x.d h]

/-- Addresses are told apart by their printed forms. -/
theorem eq_of_chars_eq {x y : Ipv4} (h : x.chars = y.chars) : x = y := by
  have hx := x.read?_chars (stops_nil _)
  rw [h, y.read?_chars (stops_nil _)] at hx
  cases hx
  rfl

/-- There is no address where no dot is behind the first digits. -/
theorem read?_eq_none {text : List Char}
    (h : (text.dropWhile (isDigit 10)).head? ≠ some '.') : read? text = none := by
  rw [read?, readOctet?, Numeral.read?]
  by_cases hadmits : octetLimits.admits (text.takeWhile (isDigit 10)) = true
  · have hdot := expectChar?_eq_none h
    simp only [octetLimits] at hadmits ⊢
    simp only [hadmits, ite_true, Option.bind_eq_bind, Option.bind_some, hdot, Option.bind_none]
  · simp only [octetLimits] at hadmits ⊢
    simp only [hadmits, ite_false, Option.bind_eq_bind, Option.bind_none, Bool.false_eq_true]

end Ipv4

namespace Ipv6

/-- A text does not go on with a group: it goes on with no digit, and with no dot. -/
def Apart (text : List Char) : Prop := ∀ c ∈ text.head?, isDigit 16 c = false ∧ c ≠ '.'

theorem apart_cons {c : Char} (hdigit : isDigit 16 c = false) (hdot : c ≠ '.') (rest : List Char) :
    Apart (c :: rest) := by
  intro d hd
  obtain rfl := Option.some.inj hd
  exact ⟨hdigit, hdot⟩

theorem Apart.stops {text : List Char} (h : Apart text) : Stops (isDigit 16) text :=
  fun c hc => (h c hc).1

/-- No dot follows the decimal digits at the front of hexadecimal ones. -/
theorem head?_dropWhile_hexadecimal {digits rest : List Char}
    (hdigits : ∀ c ∈ digits, isDigit 16 c = true) (h : Apart rest) :
    ((digits ++ rest).dropWhile (isDigit 10)).head? ≠ some '.' := by
  induction digits with
  | nil =>
    intro hdot
    rw [List.nil_append, dropWhile_of_stops (stops_mono (by decide) h.stops)] at hdot
    exact (h '.' hdot).2 rfl
  | cons c digits ih =>
    rw [List.cons_append, List.dropWhile_cons]
    split
    · exact ih fun d hd => hdigits d (List.mem_cons_of_mem _ hd)
    · intro hdot
      obtain rfl := Option.some.inj hdot
      exact absurd (hdigits '.' (List.mem_cons_self ..)) (by decide)

theorem keeps_group (g : UInt16) : groupLimits.Keeps g.toNat where
  low := by decide
  high := by decide
  short most hmost := by
    obtain rfl := Option.some.inj hmost
    exact ⟨by decide, g.toNat_lt⟩
  small := g.toNat_lt

/-- What stands in front of a group: a colon, unless it is the first. -/
def lead (first : Bool) (text : List Char) : List Char := if first then text else ':' :: text

theorem readColon?_lead (first : Bool) (text : List Char) :
    readColon? first (lead first text) = some text := by
  cases first with
  | true => rfl
  | false => exact expectChar?_cons ':' text

theorem readGroup?_hexadecimal (first : Bool) (g : UInt16) {rest : List Char} (h : Apart rest) :
    readGroup? first (lead first (hexadecimal g.toNat ++ rest)) = some (g, rest) := by
  have hread : Numeral.read? groupLimits (hexadecimal g.toNat ++ rest) = some (g.toNat, rest) :=
    read?_toDigits (keeps_group g) h.stops
  rw [readGroup?, readColon?_lead]
  simp only [Option.bind_eq_bind, Option.bind_some, hread, Nat.toUInt16_eq, UInt16.ofNat_toNat]

/-- There is no IPv4 address where no dot is behind the first digits. -/
theorem readQuad?_eq_none (first : Bool) {text : List Char}
    (h : (text.dropWhile (isDigit 10)).head? ≠ some '.') :
    readQuad? first (lead first text) = none := by
  rw [readQuad?, readColon?_lead]
  simp only [Option.bind_eq_bind, Option.bind_some]
  rw [Ipv4.read?_eq_none h, Option.bind_none]

/-- A group in hexadecimal digits is no IPv4 address. -/
theorem readQuad?_hexadecimal (first : Bool) (g : UInt16) {rest : List Char} (h : Apart rest) :
    readQuad? first (lead first (hexadecimal g.toNat ++ rest)) = none := by
  have hdigits : ∀ c ∈ hexadecimal g.toNat, isDigit 16 c = true :=
    fun c hc => isDigit_of_mem_toDigits (by decide) (by decide) hc
  exact readQuad?_eq_none first (head?_dropWhile_hexadecimal hdigits h)

/-- A group is not followed by another one. -/
structure Closed (first : Bool) (text : List Char) : Prop where
  /-- There is no group. -/
  group : readGroup? first text = none
  /-- There is no IPv4 address. -/
  quad : readQuad? first text = none

/-- Neither a group nor an IPv4 address begins without a digit. -/
theorem closed_lead (first : Bool) {text : List Char} (h : Apart text) :
    Closed first (lead first text) := by
  constructor
  · rw [readGroup?, readColon?_lead]
    simp only [Option.bind_eq_bind, Option.bind_some]
    rw [read?_of_stops h.stops, Option.bind_none]
  · refine readQuad?_eq_none first ?_
    exact head?_dropWhile_hexadecimal (fun c hc => absurd hc List.not_mem_nil) h

/-- Without a colon no other group follows. -/
theorem closed_of_ne {text : List Char} (h : text.head? ≠ some ':') : Closed false text := by
  have hcolon : readColon? false text = none := expectChar?_eq_none h
  exact ⟨by rw [readGroup?, hcolon]; rfl, by rw [readQuad?, hcolon]; rfl⟩

/-- Groups end where there is none. -/
theorem readGroups_closed {first : Bool} {text : List Char} (h : Closed first text) (room : Nat) :
    readGroups room first text = ([], false, text) := by
  cases room with
  | zero => rfl
  | succ room =>
    rw [readGroups, h.quad, ite_self, h.group]

/-- The groups of an address behind the first, each with its colon. -/
def laterChars (groups : List UInt16) : List Char :=
  groups.flatMap fun g => ':' :: hexadecimal g.toNat

theorem joined_cons (g : UInt16) (groups : List UInt16) :
    joined (g :: groups) = hexadecimal g.toNat ++ laterChars groups := by
  induction groups generalizing g with
  | nil => rw [joined, laterChars, List.flatMap_nil, List.append_nil]
  | cons next groups ih =>
    rw [joined, ih]
    · rfl
    · exact fun h => by cases h

theorem apart_laterChars (groups : List UInt16) {rest : List Char} (h : Apart rest) :
    Apart (laterChars groups ++ rest) := by
  cases groups with
  | nil => exact h
  | cons g groups => exact apart_cons (by decide) (by decide) _

/-- A group is read, and then those behind it. -/
theorem readGroups_cons (first : Bool) (g : UInt16) {rest : List Char} (h : Apart rest)
    (room : Nat) :
    readGroups (room + 1) first (lead first (hexadecimal g.toNat ++ rest)) =
      (g :: (readGroups room false rest).1, (readGroups room false rest).2) := by
  rw [readGroups, readQuad?_hexadecimal first g h, ite_self, readGroup?_hexadecimal first g h]

/-- Later groups are read as long as there is room, up to where no other one follows. -/
theorem readGroups_laterChars (groups : List UInt16) {rest : List Char} (h : Apart rest)
    {room : Nat} (hroom : groups.length ≤ room)
    (hclosed : groups.length = room ∨ Closed false rest) :
    readGroups room false (laterChars groups ++ rest) = (groups, false, rest) := by
  induction groups generalizing room with
  | nil =>
    rcases hclosed with rfl | hclosed
    · rfl
    · exact readGroups_closed hclosed room
  | cons g groups ih =>
    rw [List.length_cons] at hroom hclosed
    obtain ⟨room, rfl⟩ : ∃ n, room = n + 1 := ⟨room - 1, by omega⟩
    have htext : laterChars (g :: groups) ++ rest =
        lead false (hexadecimal g.toNat ++ (laterChars groups ++ rest)) := by
      rw [laterChars, List.flatMap_cons, List.append_assoc]
      rfl
    rw [htext, readGroups_cons false g (apart_laterChars groups h),
      ih (by omega) (hclosed.imp_left fun heq => by omega)]

/-- Groups that are joined are read as long as there is room, up to where no other one follows. -/
theorem readGroups_joined (groups : List UInt16) {rest : List Char} (h : Apart rest)
    {room : Nat} (hroom : groups.length ≤ room)
    (hclosed : groups.length = room ∨ Closed false rest) :
    readGroups room true (joined groups ++ rest) = (groups, false, rest) := by
  cases groups with
  | nil => exact readGroups_closed (closed_lead true h) room
  | cons g groups =>
    rw [List.length_cons] at hroom hclosed
    obtain ⟨room, rfl⟩ : ∃ n, room = n + 1 := ⟨room - 1, by omega⟩
    rw [joined_cons, List.append_assoc]
    have hread := readGroups_cons true g (apart_laterChars groups h) room
    rw [readGroups_laterChars groups h (by omega) (hclosed.imp_left fun heq => by omega)] at hread
    exact hread

/-- The groups of a run are zero. -/
def Run.Zero (groups : List UInt16) (r : Run) : Prop :=
  ∀ i, r.start ≤ i → i < r.start + r.length → groups[i]? = some 0

theorem Run.zero_empty (groups : List UInt16) : Run.Zero groups ⟨0, 0⟩ :=
  fun _ _ hhigh => absurd hhigh (Nat.not_lt_zero _)

/-- The run that is found is one of zero groups. -/
theorem zero_longestRun {before rest : List UInt16} {current best : Run}
    (hcurrent : current.length = 0 ∨ current.start + current.length = before.length)
    (hzero : current.Zero (before ++ rest)) (hbest : best.Zero (before ++ rest)) :
    (longestRun before.length current best rest).Zero (before ++ rest) := by
  induction rest generalizing before current best with
  | nil => exact hbest
  | cons g rest ih =>
    have hnext : before ++ g :: rest = (before ++ [g]) ++ rest := List.append_cons ..
    have hlength : before.length + 1 = (before ++ [g]).length := by
      rw [List.length_append, List.length_singleton]
    rw [longestRun, hlength]
    split
    next hg =>
      have hhere : (before ++ g :: rest)[before.length]? = some 0 := by
        rw [List.getElem?_append_right (Nat.le_refl _), Nat.sub_self, hg]
        rfl
      obtain ⟨grown, hgrow⟩ : ∃ grown : Run, grown =
        if current.length = 0 then ⟨before.length, 1⟩
        else ⟨current.start, current.length + 1⟩ := ⟨_, rfl⟩
      have hplace : grown.start + grown.length = before.length + 1 := by
        rw [hgrow]
        split
        · rfl
        · simp only
          omega
      have hgrown : grown.Zero (before ++ g :: rest) := by
        intro i hlow hhigh
        rcases Nat.lt_or_ge i before.length with hlt | hge
        · refine hzero i ?_ ?_
          · split at hgrow
            next => rw [hgrow] at hlow; exact absurd hlow (Nat.not_le.mpr hlt)
            next => rw [hgrow] at hlow; exact hlow
          · split at hgrow
            next => rw [hgrow] at hlow; exact absurd hlow (Nat.not_le.mpr hlt)
            next hsome => exact (hcurrent.resolve_left hsome).symm ▸ hlt
        · obtain rfl : i = before.length := by omega
          exact hhere
      simp only [← hgrow]
      rw [hnext] at hbest hgrown ⊢
      refine ih (.inr (hplace.trans hlength)) hgrown ?_
      split
      · exact hgrown
      · exact hbest
    next hg =>
      rw [hnext] at hbest ⊢
      exact ih (.inl rfl) (Run.zero_empty _) hbest

theorem zero_longestRun_groups (groups : List UInt16) :
    (longestRun 0 ⟨0, 0⟩ ⟨0, 0⟩ groups).Zero groups := by
  have hempty := Run.zero_empty ([] ++ groups)
  exact zero_longestRun (.inl rfl) hempty hempty

/-- A run of zero groups parts the groups in three. -/
theorem Run.Zero.split {groups : List UInt16} {r : Run} (h : r.Zero groups) (hlong : 0 < r.length) :
    r.start + r.length ≤ groups.length ∧ groups = groups.take r.start ++
      List.replicate r.length 0 ++ groups.drop (r.start + r.length) := by
  have hend : r.start + r.length ≤ groups.length := by
    have hlast := h (r.start + r.length - 1) (by omega) (by omega)
    obtain ⟨hlt, -⟩ := List.getElem?_eq_some_iff.mp hlast
    omega
  have hrun : (groups.drop r.start).take r.length = List.replicate r.length 0 := by
    refine List.ext_getElem? fun i => ?_
    rw [List.getElem?_take, List.getElem?_drop, List.getElem?_replicate]
    split
    next hi => exact h (r.start + i) (Nat.le_add_right ..) (Nat.add_lt_add_left hi _)
    next => rfl
  refine ⟨hend, ?_⟩
  rw [← hrun, ← List.drop_drop, List.append_assoc, List.take_append_drop, List.take_append_drop]

theorem ofGroups_groups (x : Ipv6) : ofGroups x.groups.toList = x := by
  have hgroups : (ofGroups x.groups.toList).groups = x.groups := by
    refine Vector.ext fun i hi => ?_
    simp [ofGroups]
  cases x
  exact congrArg Ipv6.mk hgroups

/-- A mapped address is one of five zero groups, a full one and two more. -/
theorem groups_of_mapped? {x : Ipv6} {quad : Ipv4} (h : x.mapped? = some quad) :
    x.groups.toList =
      [0, 0, 0, 0, 0, 0xffff, group quad.a quad.b, group quad.c quad.d] := by
  unfold mapped? at h
  split at h
  next g k hgroups =>
    obtain rfl := Option.some.inj h
    have hg := group_octets g
    have hk := group_octets k
    simp only [Ipv4.ofOctets, List.getD_cons_zero, List.getD_cons_succ, hg, hk]
    exact hgroups
  next => exact absurd h.symm (Option.some_ne_none _)

/-- Groups with two colons in front of others are filled up with zeros between them. -/
theorem read?_elided (head : List UInt16) {tail : List UInt16} {text rest : List Char}
    {isQuad : Bool} (hhead : head.length < 8)
    (htail : readGroups (7 - head.length) true text = (tail, isQuad, rest)) :
    read? (joined head ++ ':' :: ':' :: text) = some (ofGroups
      (head ++ List.replicate (8 - head.length - tail.length) 0 ++ tail), rest) := by
  have hcolon : isDigit 16 ':' = false := by decide
  have hclosed : Closed false (':' :: ':' :: text) :=
    closed_lead false (apart_cons hcolon (by decide) _)
  have hread := readGroups_joined head (apart_cons hcolon (by decide) (':' :: text))
    (Nat.le_of_lt hhead) (.inr hclosed)
  have hshort : head.length ≠ 8 := Nat.ne_of_lt hhead
  rw [read?, hread]
  simp only [hshort, ite_false, Bool.false_eq_true, expectChar?_cons, Option.bind_eq_bind,
    Option.bind_some, htail]

/-- What may follow an address, so that all of it is read: no digit, no dot and no colon. -/
structure Ends (text : List Char) : Prop where
  /-- Neither a digit nor a dot follows. -/
  apart : Apart text
  /-- No colon follows. -/
  colon : text.head? ≠ some ':'

/-- A written address is read off the front of a text. -/
theorem read?_chars (x : Ipv6) {rest : List Char} (h : Ends rest) :
    read? (x.chars ++ rest) = some (x, rest) := by
  cases hmapped : x.mapped? with
  | some quad =>
    have hffff : hexadecimal (0xffff : UInt16).toNat = ['f', 'f', 'f', 'f'] := by decide
    have hchars : x.chars ++ rest = joined [] ++ ':' :: ':' :: (lead true
        (hexadecimal (0xffff : UInt16).toNat ++ lead false (quad.chars ++ rest))) := by
      rw [chars, hmapped, hffff]
      rfl
    have hquad : readQuad? false (lead false (quad.chars ++ rest)) =
        some ([group quad.a quad.b, group quad.c quad.d], rest) := by
      rw [readQuad?, readColon?_lead]
      simp only [Option.bind_eq_bind, Option.bind_some]
      rw [quad.read?_chars (stops_mono (by decide) h.apart.stops), Option.bind_some]
    have htail : readGroups 7 true (lead true
        (hexadecimal (0xffff : UInt16).toNat ++ lead false (quad.chars ++ rest))) =
        ([0xffff, group quad.a quad.b, group quad.c quad.d], true, rest) := by
      have hcolon : Apart (lead false (quad.chars ++ rest)) :=
        apart_cons (by decide) (by decide) _
      rw [readGroups_cons true _ hcolon, readGroups, if_pos (by decide), hquad]
    have hread := read?_elided [] (by decide) htail
    rw [hchars, hread, ← x.ofGroups_groups, groups_of_mapped? hmapped]
    rfl
  | none =>
    have hsize : x.groups.toList.length = 8 := Vector.length_toList
    have hzero := zero_longestRun_groups x.groups.toList
    simp only [chars, hmapped]
    generalize longestRun 0 ⟨0, 0⟩ ⟨0, 0⟩ x.groups.toList = run at hzero ⊢
    split
    next hlong =>
      obtain ⟨hend, hsplit⟩ := hzero.split (Nat.zero_lt_of_lt hlong)
      rw [hsize] at hend
      have hhead : (x.groups.toList.take run.start).length = run.start := by
        rw [List.length_take, hsize]
        omega
      have htail : (x.groups.toList.drop (run.start + run.length)).length =
          8 - (run.start + run.length) := by
        rw [List.length_drop, hsize]
      have hroom : (x.groups.toList.drop (run.start + run.length)).length ≤
          7 - (x.groups.toList.take run.start).length := by omega
      have hread := readGroups_joined _ h.apart hroom (.inr (closed_of_ne h.colon))
      have hzeros : 8 - (x.groups.toList.take run.start).length -
          (x.groups.toList.drop (run.start + run.length)).length = run.length := by omega
      rw [List.append_assoc, List.cons_append, List.cons_append,
        read?_elided _ (by omega) hread, hzeros, ← hsplit, ofGroups_groups]
    next =>
      have hread := readGroups_joined x.groups.toList h.apart (Nat.le_of_eq hsize) (.inl hsize)
      rw [read?, hread]
      simp only [hsize, ite_true, ofGroups_groups]

/-- Addresses are told apart by their printed forms. -/
theorem eq_of_chars_eq {x y : Ipv6} (h : x.chars = y.chars) : x = y := by
  have hends : Ends [] := ⟨fun _ hc => (by cases hc), fun hc => (by cases hc)⟩
  have hx := x.read?_chars hends
  rw [h, y.read?_chars hends] at hx
  cases hx
  rfl

end Ipv6

end PacketTunnel.Net
