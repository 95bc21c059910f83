import PacketTunnel.Net.Address

/-!
# Addresses and their octets

An address is read off the first octets of a list, as many as it has, and missing ones count as
zero. So its octets are those of the list, filled up with zeros, and what follows them does not
matter.
-/

namespace PacketTunnel.Net

/-- An octet that may be missing is one of the list that is filled up with zeros. -/
theorem getD_take_append_replicate (l : List UInt8) {i n : Nat} (h : i < n) :
    ((l ++ List.replicate n 0).take n).getD i 0 = l.getD i 0 := by
  simp only [List.getD_eq_getElem?_getD, List.getElem?_take, h, ite_true]
  rcases Nat.lt_or_ge i l.length with hlt | hge
  · rw [List.getElem?_append_left hlt]
  · rw [List.getElem?_append_right hge, List.getElem?_eq_none hge, List.getElem?_replicate]
    split <;> rfl

theorem length_take_append_replicate (l : List UInt8) (n : Nat) :
    ((l ++ List.replicate n 0).take n).length = n := by
  rw [List.length_take, List.length_append, List.length_replicate]
  omega

namespace Ipv4

/-- An address has the octets that it is read from. -/
theorem octets_ofOctets (l : List UInt8) :
    (ofOctets l).octets = (l ++ List.replicate 4 0).take 4 := by
  match l with
  | [] => rfl
  | [_] => rfl
  | [_, _] => rfl
  | [_, _, _] => rfl
  | _ :: _ :: _ :: _ :: _ => rfl

/-- Enough octets begin with those of the address that is read from them. -/
theorem octets_append_drop {l : List UInt8} (h : 4 ≤ l.length) :
    (ofOctets l).octets ++ l.drop 4 = l := by
  rw [octets_ofOctets, List.take_append_of_le_length h, List.take_append_drop]

end Ipv4

namespace Ipv6

/-- A group has the two octets that it is put together from. -/
theorem octets_group (high low : UInt8) :
    [((group high low).toNat / 256).toUInt8, (group high low).toNat.toUInt8] = [high, low] := by
  have hh := high.toNat_lt
  have hl := low.toNat_lt
  have hgroup : (group high low).toNat = high.toNat * 256 + low.toNat := by
    rw [group, Nat.toUInt16_eq, UInt16.toNat_ofNat']
    omega
  have hhigh : ((group high low).toNat / 256).toUInt8 = high := by
    apply UInt8.toNat_inj.mp
    rw [hgroup, Nat.toUInt8_eq, UInt8.toNat_ofNat']
    omega
  have hlow : (group high low).toNat.toUInt8 = low := by
    apply UInt8.toNat_inj.mp
    rw [hgroup, Nat.toUInt8_eq, UInt8.toNat_ofNat']
    omega
  rw [hhigh, hlow]

/-- A group is put together from its two octets. -/
theorem group_octets (g : UInt16) : group (g.toNat / 256).toUInt8 g.toNat.toUInt8 = g := by
  have hg := g.toNat_lt
  apply UInt16.toNat_inj.mp
  rw [group, Nat.toUInt16_eq, UInt16.toNat_ofNat', Nat.toUInt8_eq, UInt8.toNat_ofNat',
    Nat.toUInt8_eq, UInt8.toNat_ofNat']
  omega

/-- Pairs that are put one behind the other keep their places. -/
theorem getElem?_flatMap_pair {α β : Type} (f g : α → β) (l : List α) (i : Nat) :
    (l.flatMap fun a => [f a, g a])[2 * i]? = l[i]?.map f ∧
      (l.flatMap fun a => [f a, g a])[2 * i + 1]? = l[i]?.map g := by
  induction l generalizing i with
  | nil => exact ⟨rfl, rfl⟩
  | cons a l ih =>
    cases i with
    | zero => exact ⟨rfl, rfl⟩
    | succ i => exact ih i

theorem length_octets (x : Ipv6) : x.octets.length = 16 := by
  rw [octets, List.length_flatMap]
  show (x.groups.toList.map fun _ => 2).sum = 16
  rw [List.map_const', List.sum_replicate_nat, Vector.length_toList]

/-- The octets of an address that is read, in pairs. -/
theorem getElem?_octets_ofOctets (l : List UInt8) {i : Nat} (hi : i < 8) :
    (ofOctets l).octets[2 * i]? = some (l.getD (2 * i) 0) ∧
      (ofOctets l).octets[2 * i + 1]? = some (l.getD (2 * i + 1) 0) := by
  have hgroup : (ofOctets l).groups.toList[i]? =
      some (group (l.getD (2 * i) 0) (l.getD (2 * i + 1) 0)) := by
    simp [ofOctets, hi]
  have hoctets := octets_group (l.getD (2 * i) 0) (l.getD (2 * i + 1) 0)
  obtain ⟨hhigh, hlow⟩ := getElem?_flatMap_pair
    (fun g : UInt16 => (g.toNat / 256).toUInt8) (fun g => g.toNat.toUInt8)
    (ofOctets l).groups.toList i
  rw [hgroup] at hhigh hlow
  rw [octets, hhigh, hlow]
  injection hoctets with hhigh hoctets
  injection hoctets with hlow _
  exact ⟨congrArg some hhigh, congrArg some hlow⟩

/-- An address has the octets that it is read from. -/
theorem octets_ofOctets (l : List UInt8) :
    (ofOctets l).octets = (l ++ List.replicate 16 0).take 16 := by
  have hlength := length_take_append_replicate l 16
  apply List.ext_getElem?
  intro k
  rcases Nat.lt_or_ge k 16 with hk | hk
  · have hright : ((l ++ List.replicate 16 0).take 16)[k]? = some (l.getD k 0) := by
      rw [← getD_take_append_replicate l hk, List.getD_eq_getElem?_getD,
        List.getElem?_eq_getElem (by rw [hlength]; exact hk)]
      rfl
    obtain ⟨i, hi, rfl | rfl⟩ : ∃ i < 8, k = 2 * i ∨ k = 2 * i + 1 :=
      ⟨k / 2, by omega, by omega⟩
    · rw [hright, (getElem?_octets_ofOctets l hi).1]
    · rw [hright, (getElem?_octets_ofOctets l hi).2]
  · rw [List.getElem?_eq_none (by rw [length_octets]; exact hk),
      List.getElem?_eq_none (by rw [hlength]; exact hk)]

/-- Enough octets begin with those of the address that is read from them. -/
theorem octets_append_drop {l : List UInt8} (h : 16 ≤ l.length) :
    (ofOctets l).octets ++ l.drop 16 = l := by
  rw [octets_ofOctets, List.take_append_of_le_length h, List.take_append_drop]

/-- An address is read off its octets, whatever follows them. -/
theorem ofOctets_append (x : Ipv6) (rest : List UInt8) : ofOctets (x.octets ++ rest) = x := by
  have hoctet {k : Nat} (hk : k < 16) : (x.octets ++ rest).getD k 0 = x.octets[k]?.getD 0 := by
    rw [List.getD_eq_getElem?_getD, List.getElem?_append_left (x.length_octets ▸ hk)]
  have hgroups : (ofOctets (x.octets ++ rest)).groups = x.groups := by
    refine Vector.ext fun i hi => ?_
    obtain ⟨hhigh, hlow⟩ := getElem?_flatMap_pair
      (fun g : UInt16 => (g.toNat / 256).toUInt8) (fun g => g.toNat.toUInt8) x.groups.toList i
    have hi' : x.groups.toList[i]? = some x.groups[i] := by simp [hi]
    rw [hi'] at hhigh hlow
    rw [ofOctets, Vector.getElem_ofFn, hoctet (by omega), hoctet (by omega), octets, hhigh, hlow]
    exact group_octets _
  cases x
  exact congrArg Ipv6.mk hgroups

/-- Sixteen octets give their address back. -/
theorem ofOctets_octets (x : Ipv6) : ofOctets x.octets = x :=
  List.append_nil x.octets ▸ x.ofOctets_append []

end Ipv6

end PacketTunnel.Net
