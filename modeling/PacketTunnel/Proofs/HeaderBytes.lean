import Mathlib.Algebra.GroupWithZero.Nat
import PacketTunnel.Route.Header

/-!
# Headers and their bytes

The numbers of a header have their lowest byte first. A header is read off the front of a message,
whatever follows it, and a header that was written is read back.
-/

namespace PacketTunnel.Route

/-- Bits that are put above a number add their value to it. -/
theorem or_shiftLeft_eq_add {a k : Nat} (b : Nat) (h : a < 2 ^ k) :
    a ||| b <<< k = a + b * 2 ^ k := by
  rw [Nat.or_comm, ← Nat.shiftLeft_add_eq_or_of_lt h, Nat.shiftLeft_eq, Nat.add_comm]

/-- The value of a number of two bytes. -/
theorem toNat_read16 (bytes : List UInt8) (i : Nat) :
    (read16 bytes i).toNat = (bytes.getD i 0).toNat + 256 * (bytes.getD (i + 1) 0).toNat := by
  rw [read16]
  generalize bytes.getD i 0 = b0, bytes.getD (i + 1) 0 = b1
  have h0 := b0.toNat_lt
  have h1 := b1.toNat_lt
  have hshift : (b1.toUInt16 <<< 8).toNat = b1.toNat <<< 8 := by
    rw [UInt16.toNat_shiftLeft, UInt8.toNat_toUInt16]
    exact Nat.mod_eq_of_lt (by rw [Nat.shiftLeft_eq]; exact (by omega : b1.toNat * 256 < 65536))
  rw [UInt16.toNat_or, hshift, UInt8.toNat_toUInt16, or_shiftLeft_eq_add _ h0]
  omega

/-- The value of a number of four bytes. -/
theorem toNat_read32 (bytes : List UInt8) (i : Nat) :
    (read32 bytes i).toNat = (bytes.getD i 0).toNat + 256 * (bytes.getD (i + 1) 0).toNat
      + 65536 * (bytes.getD (i + 2) 0).toNat + 16777216 * (bytes.getD (i + 3) 0).toNat := by
  rw [read32]
  generalize bytes.getD i 0 = b0, bytes.getD (i + 1) 0 = b1, bytes.getD (i + 2) 0 = b2,
    bytes.getD (i + 3) 0 = b3
  have h0 := b0.toNat_lt
  have h1 := b1.toNat_lt
  have h2 := b2.toNat_lt
  have h3 := b3.toNat_lt
  have hshift (b : UInt8) {k : UInt32} (hk : k.toNat ≤ 24) :
      (b.toUInt32 <<< k).toNat = b.toNat <<< k.toNat := by
    have hb := b.toNat_lt
    rw [UInt32.toNat_shiftLeft, UInt8.toNat_toUInt32, Nat.mod_eq_of_lt (a := k.toNat) (by omega)]
    apply Nat.mod_eq_of_lt
    rw [Nat.shiftLeft_eq]
    calc b.toNat * 2 ^ k.toNat < 2 ^ 8 * 2 ^ 24 :=
          Nat.mul_lt_mul_of_lt_of_le hb (Nat.pow_le_pow_right (by omega) hk) (by omega)
      _ = 2 ^ 32 := by decide
  rw [UInt32.toNat_or, UInt32.toNat_or, UInt32.toNat_or, hshift b1 (by decide),
    hshift b2 (by decide), hshift b3 (by decide), UInt8.toNat_toUInt32]
  change b0.toNat ||| b1.toNat <<< 8 ||| b2.toNat <<< 16 ||| b3.toNat <<< 24 = _
  have h01 : b0.toNat + b1.toNat * 2 ^ 8 < 2 ^ 16 := by omega
  have h012 : b0.toNat + b1.toNat * 2 ^ 8 + b2.toNat * 2 ^ 16 < 2 ^ 24 := by omega
  rw [or_shiftLeft_eq_add _ h0, or_shiftLeft_eq_add _ h01, or_shiftLeft_eq_add _ h012]
  omega

/-- A number of two bytes is read where it was written. -/
theorem read16_bytes16 (n : UInt16) {bytes : List UInt8} {i : Nat}
    (h0 : bytes.getD i 0 = n.toUInt8) (h1 : bytes.getD (i + 1) 0 = (n >>> 8).toUInt8) :
    read16 bytes i = n := by
  have hn := n.toNat_lt
  have hhigh : (n >>> 8).toNat = n.toNat / 256 := by
    rw [UInt16.toNat_shiftRight]
    exact Nat.shiftRight_eq_div_pow ..
  apply UInt16.toNat_inj.mp
  rw [toNat_read16, h0, h1, UInt16.toNat_toUInt8, UInt16.toNat_toUInt8, hhigh]
  omega

/-- A number of four bytes is read where it was written. -/
theorem read32_bytes32 (n : UInt32) {bytes : List UInt8} {i : Nat}
    (h0 : bytes.getD i 0 = n.toUInt8) (h1 : bytes.getD (i + 1) 0 = (n >>> 8).toUInt8)
    (h2 : bytes.getD (i + 2) 0 = (n >>> 16).toUInt8)
    (h3 : bytes.getD (i + 3) 0 = (n >>> 24).toUInt8) : read32 bytes i = n := by
  have hn := n.toNat_lt
  have h8 : (n >>> 8).toNat = n.toNat / 256 := by
    rw [UInt32.toNat_shiftRight]
    exact Nat.shiftRight_eq_div_pow ..
  have h16 : (n >>> 16).toNat = n.toNat / 65536 := by
    rw [UInt32.toNat_shiftRight]
    exact Nat.shiftRight_eq_div_pow ..
  have h24 : (n >>> 24).toNat = n.toNat / 16777216 := by
    rw [UInt32.toNat_shiftRight]
    exact Nat.shiftRight_eq_div_pow ..
  apply UInt32.toNat_inj.mp
  rw [toNat_read32, h0, h1, h2, h3, UInt32.toNat_toUInt8, UInt32.toNat_toUInt8,
    UInt32.toNat_toUInt8, UInt32.toNat_toUInt8, h8, h16, h24]
  omega

namespace Header

/-- A header fills the space that is set aside for headers. -/
theorem length_encode (h : Header) : h.encode.length = headerLength := rfl

/-- The numbers of a header, one behind the other. -/
theorem encode_append (h : Header) (rest : List UInt8) : h.encode ++ rest =
    bytes16 h.messageLength ++ (h.version :: h.kind :: (bytes16 h.index ++ (0 :: 0 ::
      (bytes32 h.flags ++ (bytes32 h.addresses ++ (bytes32 h.process.toUInt32 ++
        (bytes32 h.sequence.toUInt32 ++ (bytes32 h.errorCode.toUInt32 ++
          (List.replicate 64 0 ++ rest))))))))) := by
  simp only [encode, List.append_assoc, List.cons_append, List.nil_append]

/-- A header that was written is read back, whatever follows it. -/
theorem decode?_encode (h : Header) (rest : List UInt8) :
    decode? (h.encode ++ rest) = some h := by
  have hlength : ¬ (h.encode ++ rest).length < headerLength := by
    rw [List.length_append, length_encode]
    omega
  have hlayout := h.encode_append rest
  generalize h.encode ++ rest = bytes at hlength hlayout ⊢
  have hmessageLength : read16 bytes 0 = h.messageLength :=
    hlayout ▸ read16_bytes16 _ rfl rfl
  have hindex : read16 bytes 4 = h.index := hlayout ▸ read16_bytes16 _ rfl rfl
  have hflags : read32 bytes 8 = h.flags := hlayout ▸ read32_bytes32 _ rfl rfl rfl rfl
  have haddresses : read32 bytes 12 = h.addresses := hlayout ▸ read32_bytes32 _ rfl rfl rfl rfl
  have hprocess : read32 bytes 16 = h.process.toUInt32 :=
    hlayout ▸ read32_bytes32 _ rfl rfl rfl rfl
  have hsequence : read32 bytes 20 = h.sequence.toUInt32 :=
    hlayout ▸ read32_bytes32 _ rfl rfl rfl rfl
  have herrorCode : read32 bytes 24 = h.errorCode.toUInt32 :=
    hlayout ▸ read32_bytes32 _ rfl rfl rfl rfl
  rw [decode?, if_neg hlength, hmessageLength, hindex, hflags, haddresses, hprocess, hsequence,
    herrorCode, hlayout]
  rfl

/-- A header is read off the first bytes of a message. -/
theorem decode?_append {front : List UInt8} {h : Header} (hdecode : decode? front = some h)
    (rest : List UInt8) : decode? (front ++ rest) = some h := by
  have hlength : ¬ front.length < headerLength := fun hlt => by
    rw [decode?, if_pos hlt] at hdecode
    cases hdecode
  have hbyte (i : Nat) (hi : i < 92) : (front ++ rest).getD i 0 = front.getD i 0 := by
    have hfront : i < front.length := Nat.lt_of_lt_of_le hi (Nat.not_lt.mp hlength)
    rw [List.getD_eq_getElem?_getD, List.getElem?_append_left hfront, List.getD_eq_getElem?_getD]
  have hlength' : ¬ (front ++ rest).length < headerLength := by
    rw [List.length_append]
    omega
  rw [decode?, if_neg hlength] at hdecode
  rw [decode?, if_neg hlength', ← hdecode]
  simp only [read16, read32, hbyte, Nat.reduceAdd, Nat.reduceLT]

end Header

end PacketTunnel.Route
