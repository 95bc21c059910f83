import Mathlib.Algebra.GroupWithZero.Nat
import PacketTunnel.Proofs.JsonString
import PacketTunnel.Uuid

/-!
# Identifiers, read as they were written

The digits of the bytes hold no hyphen, so cutting at the hyphens gives the five groups back. The
written form has thirty-six bytes, the size at which a text is taken as digits with hyphens.
-/

namespace PacketTunnel

open Text

/-- A list of ASCII characters has as many bytes as characters. -/
theorem Text.Utf8.size_of_ascii {text : List Char} (h : ∀ c ∈ text, c.toNat < 128) :
    Utf8.size text = text.length := by
  induction text with
  | nil => rfl
  | cons c text ih =>
    have hc := Utf8.utf8EncodeChar_ascii (h c (List.mem_cons_self ..))
    have ht := ih fun d hd => h d (List.mem_cons_of_mem c hd)
    rw [Utf8.size] at ht ⊢
    rw [Utf8.encode_cons, hc, List.length_append, ht, List.length_singleton, List.length_cons,
      Nat.add_comm]

namespace Text.Hex

theorem digit?_digitChar : ∀ k < 16, Numeral.digit? 16 (Nat.digitChar k) = some k := by
  decide

theorem digitChar_ne_hyphen : ∀ k < 16, Nat.digitChar k ≠ '-' := by
  decide

theorem encode_cons (b : UInt8) (bytes : List UInt8) :
    encode (b :: bytes) =
      Nat.digitChar (b.toNat / 16) :: Nat.digitChar (b.toNat % 16) :: encode bytes := rfl

theorem length_encode (bytes : List UInt8) : (encode bytes).length = 2 * bytes.length := by
  induction bytes with
  | nil => rfl
  | cons b bytes ih =>
    rw [encode_cons, List.length_cons, List.length_cons, List.length_cons, ih]
    omega

/-- Every written digit is one of sixteen characters. -/
theorem mem_encode {bytes : List UInt8} {c : Char} (h : c ∈ encode bytes) :
    ∃ k < 16, c = Nat.digitChar k := by
  obtain ⟨b, _, hc⟩ := List.mem_flatMap.mp h
  have hb := b.toNat_lt
  rcases List.mem_cons.mp hc with rfl | hc
  · exact ⟨b.toNat / 16, by omega, rfl⟩
  · exact ⟨b.toNat % 16, by omega, List.mem_singleton.mp hc⟩

/-- Written digits are read as the bytes they were written for. -/
theorem decode?_encode (bytes : List UInt8) : decode? (encode bytes) = some bytes := by
  induction bytes with
  | nil => rfl
  | cons b bytes ih =>
    have hb := b.toNat_lt
    have hbyte : (b.toNat / 16 * 16 + b.toNat % 16).toUInt8 = b := by
      rw [Nat.div_add_mod']
      exact UInt8.ofNat_toNat
    rw [encode_cons, decode?, digit?_digitChar _ (by omega), digit?_digitChar _ (by omega), ih]
    exact congrArg (fun x => some (x :: bytes)) hbyte

end Text.Hex

namespace Uuid

/-- Pieces that are cut off a list hold it together, as far as they reach. -/
theorem flatten_cut {α : Type} (lengths : List Nat) (l : List α) :
    (cut lengths l).flatten = l.take lengths.sum := by
  induction lengths generalizing l with
  | nil => rfl
  | cons n lengths ih =>
    rw [cut, List.flatten_cons, ih, List.sum_cons, List.take_add]

/-- Pieces have the lengths that they are cut to, if the list is long enough. -/
theorem map_length_cut {α : Type} {lengths : List Nat} {l : List α}
    (h : lengths.sum ≤ l.length) : (cut lengths l).map List.length = lengths := by
  induction lengths generalizing l with
  | nil => rfl
  | cons n lengths ih =>
    rw [List.sum_cons] at h
    have hrest : lengths.sum ≤ (l.drop n).length := by
      rw [List.length_drop]
      omega
    rw [cut, List.map_cons, ih hrest, List.length_take, Nat.min_eq_left (by omega)]

theorem mem_of_mem_cut {α : Type} {lengths : List Nat} {l piece : List α} {a : α}
    (hp : piece ∈ cut lengths l) (ha : a ∈ piece) : a ∈ l := by
  induction lengths generalizing l with
  | nil => exact nomatch hp
  | cons n lengths ih =>
    rcases List.mem_cons.mp hp with rfl | hp
    · exact List.mem_of_mem_take ha
    · exact List.mem_of_mem_drop (ih hp)

theorem length_digits (x : Uuid) : (Hex.encode x.bytes.toList).length = 32 := by
  rw [Hex.length_encode, Vector.length_toList]

theorem sum_groupLengths (x : Uuid) :
    groupLengths.sum = (Hex.encode x.bytes.toList).length := x.length_digits.symm

/-- The hyphens of the written form are those between its groups. -/
theorem splitOn_chars (x : Uuid) :
    x.chars.splitOn '-' = cut groupLengths (Hex.encode x.bytes.toList) := by
  refine List.splitOn_intercalate '-' ?_ (List.cons_ne_nil _ _)
  intro piece hp hh
  obtain ⟨k, hk, he⟩ := Hex.mem_encode (mem_of_mem_cut hp hh)
  exact Hex.digitChar_ne_hyphen k hk he.symm

theorem joinGroups?_chars (x : Uuid) :
    joinGroups? x.chars = some (Hex.encode x.bytes.toList) := by
  rw [joinGroups?, splitOn_chars]
  simp only [map_length_cut (Nat.le_of_eq x.sum_groupLengths), ite_true, flatten_cut,
    x.sum_groupLengths, List.take_length]

theorem ofDigits?_encode (x : Uuid) : ofDigits? (Hex.encode x.bytes.toList) = some x := by
  rw [ofDigits?, if_pos x.length_digits, Hex.decode?_encode, Option.map_some, ofBytes]
  congr 2
  ext i hi
  simp

theorem chars_eq (x : Uuid) : ∃ a b c d e : List Char,
    cut groupLengths (Hex.encode x.bytes.toList) = [a, b, c, d, e] ∧
    x.chars = a ++ '-' :: (b ++ '-' :: (c ++ '-' :: (d ++ '-' :: e))) := by
  refine ⟨_, _, _, _, _, rfl, ?_⟩
  simp only [chars, groupLengths, cut, List.intercalate_cons_cons, List.intercalate_singleton,
    List.append_assoc, List.singleton_append]

/-- Every character of the written form is a hyphen or stands in a group. -/
theorem mem_chars {x : Uuid} {c : Char} (h : c ∈ x.chars) :
    c = '-' ∨ ∃ piece ∈ cut groupLengths (Hex.encode x.bytes.toList), c ∈ piece := by
  obtain ⟨a, b, d, e, f, hcut, hchars⟩ := x.chars_eq
  rw [hcut]
  simp only [hchars, List.mem_append, List.mem_cons] at h
  rcases h with h | h | h | h | h | h | h | h | h
  · exact .inr ⟨a, by simp, h⟩
  · exact .inl h
  · exact .inr ⟨b, by simp, h⟩
  · exact .inl h
  · exact .inr ⟨d, by simp, h⟩
  · exact .inl h
  · exact .inr ⟨e, by simp, h⟩
  · exact .inl h
  · exact .inr ⟨f, by simp, h⟩

theorem length_chars (x : Uuid) : x.chars.length = hyphenatedSize := by
  obtain ⟨a, b, c, d, e, hcut, hchars⟩ := x.chars_eq
  have hlengths := map_length_cut (Nat.le_of_eq x.sum_groupLengths)
  rw [hcut] at hlengths
  simp only [List.map_cons, List.map_nil, groupLengths, List.cons.injEq, and_true] at hlengths
  simp only [hchars, List.length_append, List.length_cons, hlengths, hyphenatedSize]

/-- The written form is ASCII, so it has as many bytes as characters. -/
theorem size_chars (x : Uuid) : Utf8.size x.chars = hyphenatedSize := by
  rw [← x.length_chars]
  apply Utf8.size_of_ascii
  intro c hc
  rcases mem_chars hc with rfl | ⟨piece, hp, hc⟩
  · decide
  · obtain ⟨k, hk, rfl⟩ := Hex.mem_encode (mem_of_mem_cut hp hc)
    exact Json.digitChar_lt k hk

/-- The written form is read as the identifier it was written for. -/
theorem parse_chars (x : Uuid) : parse x.chars = .ok x := by
  have hunwrap : unwrap x.chars = ⟨x.chars, 0, false⟩ := by
    rw [unwrap, if_pos x.size_chars]
  rw [parse, hunwrap]
  simp only [Bool.false_eq_true, ite_false, Option.orElse_none, joinGroups?_chars, Option.bind_some,
    ofDigits?_encode]

end Uuid

end PacketTunnel
