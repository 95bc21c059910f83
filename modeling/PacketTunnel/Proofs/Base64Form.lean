import PacketTunnel.Proofs.KeyText

/-!
# The form of base64 texts

The form is known place by place. The bits of the bytes stand in a row, the highest bit of a byte
first, and every six of them make a character of the alphabet; bits that are missing at the end are
zero. Pads fill up to a multiple of four characters. Bytes are written in this form, and a text is
read just if it is the form of some bytes, which are then the ones that are read: no two byte lists
have one form, and no byte list has two.
-/

namespace PacketTunnel.Base64

/-- The characters that stand for six bits, in the order of the numbers that the bits make. -/
def alphabet : List Char :=
  ['A', 'B', 'C', 'D', 'E', 'F', 'G', 'H', 'I', 'J', 'K', 'L', 'M', 'N', 'O', 'P', 'Q', 'R', 'S',
    'T', 'U', 'V', 'W', 'X', 'Y', 'Z', 'a', 'b', 'c', 'd', 'e', 'f', 'g', 'h', 'i', 'j', 'k', 'l',
    'm', 'n', 'o', 'p', 'q', 'r', 's', 't', 'u', 'v', 'w', 'x', 'y', 'z', '0', '1', '2', '3', '4',
    '5', '6', '7', '8', '9', '+', '/']

/-- The bit at a place in the row of all bits, zero beyond the last byte. -/
def bitAt (bytes : List UInt8) (place : Nat) : Nat :=
  (bytes.getD (place / 8) 0).toNat >>> (7 - place % 8) % 2

/-- The number that the six bits of a character make. -/
def sextetAt (bytes : List UInt8) (place : Nat) : Nat :=
  bitAt bytes (6 * place) * 32 + bitAt bytes (6 * place + 1) * 16 + bitAt bytes (6 * place + 2) * 8
    + bitAt bytes (6 * place + 3) * 4 + bitAt bytes (6 * place + 4) * 2
    + bitAt bytes (6 * place + 5)

/-- The character at a place of the form: one of the alphabet as long as there are bits, then pads
as long as the bytes, three by three, need four characters. -/
def charAt? (bytes : List UInt8) (place : Nat) : Option Char :=
  if 6 * place < 8 * bytes.length then alphabet[sextetAt bytes place]?
  else if place < (bytes.length + 2) / 3 * 4 then some '='
  else none

/-- Whether a text has the form of some bytes. -/
def Canonical (text : List Char) (bytes : List UInt8) : Prop :=
  ∀ place : Nat, text[place]? = charAt? bytes place

/-! ## Writing -/

theorem alphabet_getElem? : ∀ n < 64, alphabet[n]? = some (letter n) := by
  decide

variable {a b c : UInt8} {rest : List UInt8}

/-- Three bytes in front move all bits by twenty-four places, -/
theorem bitAt_cons (place : Nat) : bitAt (a :: b :: c :: rest) (place + 24) = bitAt rest place := by
  have hbyte : (place + 24) / 8 = place / 8 + 3 := by omega
  have hbit : (place + 24) % 8 = place % 8 := by omega
  rw [bitAt, hbyte, hbit]
  rfl

/-- and all characters by four. -/
theorem charAt?_cons (place : Nat) :
    charAt? (a :: b :: c :: rest) (place + 4) = charAt? rest place := by
  have hsextet : sextetAt (a :: b :: c :: rest) (place + 4) = sextetAt rest place := by
    have hfirst : 6 * (place + 4) = 6 * place + 24 := by omega
    simp only [sextetAt, hfirst, bitAt_cons]
  have hbits : 6 * (place + 4) < 8 * (rest.length + 3) ↔ 6 * place < 8 * rest.length := by omega
  have hpads : place + 4 < (rest.length + 3 + 2) / 3 * 4 ↔ place < (rest.length + 2) / 3 * 4 := by
    omega
  simp only [charAt?, hsextet, List.length_cons, hbits, hpads]

/-- The numbers of the first four characters, by the first three bytes; one that is missing counts
as zero. -/
theorem sextetAt_group (bytes : List UInt8) {a b c : Nat} (ha : (bytes.getD 0 0).toNat = a)
    (hb : (bytes.getD 1 0).toNat = b) (hc : (bytes.getD 2 0).toNat = c) :
    sextetAt bytes 0 = a / 4 ∧ sextetAt bytes 1 = a % 4 * 16 + b / 16 ∧
      sextetAt bytes 2 = b % 16 * 4 + c / 64 ∧ sextetAt bytes 3 = c % 64 := by
  have hlta : a < 256 := ha ▸ UInt8.toNat_lt _
  have hltb : b < 256 := hb ▸ UInt8.toNat_lt _
  have hltc : c < 256 := hc ▸ UInt8.toNat_lt _
  simp only [sextetAt, bitAt, Nat.reduceMul, Nat.reduceAdd, Nat.reduceDiv, Nat.reduceMod,
    Nat.reduceSub, Nat.shiftRight_eq_div_pow, Nat.reducePow, ha, hb, hc]
  exact ⟨by omega, by omega, by omega, by omega⟩

theorem sextetAt_lt (bytes : List UInt8) (place : Nat) : sextetAt bytes place < 64 := by
  have hbit (n : Nat) : bitAt bytes n < 2 := Nat.mod_lt _ Nat.two_pos
  have h0 := hbit (6 * place)
  have h1 := hbit (6 * place + 1)
  have h2 := hbit (6 * place + 2)
  have h3 := hbit (6 * place + 3)
  have h4 := hbit (6 * place + 4)
  have h5 := hbit (6 * place + 5)
  rw [sextetAt]
  omega

section CharAt

variable {bytes : List UInt8} {place : Nat}

/-- As long as there are bits, there are characters of the alphabet, -/
theorem charAt?_letter {n : Nat} (h : 6 * place < 8 * bytes.length)
    (hn : sextetAt bytes place = n) : charAt? bytes place = some (letter n) := by
  rw [charAt?, if_pos h, ← hn, alphabet_getElem? _ (sextetAt_lt bytes place)]

/-- then there are pads, -/
theorem charAt?_pad (h : 8 * bytes.length ≤ 6 * place)
    (hlast : place < (bytes.length + 2) / 3 * 4) : charAt? bytes place = some '=' := by
  rw [charAt?, if_neg (Nat.not_lt.mpr h), if_pos hlast]

/-- and then there is nothing. -/
theorem charAt?_end (h : (bytes.length + 2) / 3 * 4 ≤ place) : charAt? bytes place = none := by
  have hbits : ¬6 * place < 8 * bytes.length := by omega
  rw [charAt?, if_neg hbits, if_neg (Nat.not_lt.mpr h)]

end CharAt

/-- Bytes are written in their form. -/
theorem canonical_encode (bytes : List UInt8) : Canonical (encode bytes) bytes := by
  intro place
  induction bytes using encode.induct generalizing place with
  | case1 => exact (charAt?_end (Nat.zero_le _)).symm
  | case2 a =>
    obtain ⟨h0, h1, -, -⟩ := sextetAt_group [a] (a := a.toNat) (b := 0) (c := 0) rfl rfl rfl
    rcases place with _ | _ | _ | _ | place
    · exact (charAt?_letter (by simp) h0).symm
    · exact (charAt?_letter (by simp) h1).symm
    · exact (charAt?_pad (by simp) (by simp)).symm
    · exact (charAt?_pad (by simp) (by simp)).symm
    · exact (charAt?_end (by simp)).symm
  | case3 a b =>
    obtain ⟨h0, h1, h2, -⟩ :=
      sextetAt_group [a, b] (a := a.toNat) (b := b.toNat) (c := 0) rfl rfl rfl
    rcases place with _ | _ | _ | _ | place
    · exact (charAt?_letter (by simp) h0).symm
    · exact (charAt?_letter (by simp) h1).symm
    · exact (charAt?_letter (by simp) h2).symm
    · exact (charAt?_pad (by simp) (by simp)).symm
    · exact (charAt?_end (by simp)).symm
  | case4 a b c rest ih =>
    obtain ⟨h0, h1, h2, h3⟩ := sextetAt_group (a :: b :: c :: rest) rfl rfl rfl
    have hbits {n : Nat} (h : n < 4) : 6 * n < 8 * (a :: b :: c :: rest).length := by
      rw [List.length_cons, List.length_cons, List.length_cons]
      omega
    -- The first four places belong to the three bytes, and all others to the rest.
    rcases place with _ | _ | _ | _ | place
    · exact (charAt?_letter (hbits (by omega)) h0).symm
    · exact (charAt?_letter (hbits (by omega)) h1).symm
    · exact (charAt?_letter (hbits (by omega)) h2).symm
    · exact (charAt?_letter (hbits (by omega)) h3).symm
    · exact (ih place).trans (charAt?_cons place).symm

/-- So a text has the form of bytes just if it is what they are written as. -/
theorem canonical_iff {text : List Char} {bytes : List UInt8} :
    Canonical text bytes ↔ text = encode bytes := by
  constructor
  · intro h
    exact List.ext_getElem? fun place => (h place).trans (canonical_encode bytes place).symm
  · rintro rfl
    exact canonical_encode bytes

/-! ## Reading -/

/-- A character that has a number of six bits is the letter of that number. -/
theorem letter_of_sextet? {c : Char} {n : Nat} (h : sextet? c = some n) :
    n < 64 ∧ letter n = c := by
  have hchar {m : Nat} (hm : m = c.toNat) : Char.ofNat m = c := hm ▸ Char.ofNat_toNat c
  simp only [sextet?] at h
  split at h
  case isTrue hupper =>
    obtain rfl := Option.some.inj h
    refine ⟨by omega, ?_⟩
    rw [letter, if_pos (by omega)]
    exact hchar (by omega)
  split at h
  case isTrue hlower =>
    obtain rfl := Option.some.inj h
    refine ⟨by omega, ?_⟩
    rw [letter, if_neg (by omega), if_pos (by omega)]
    exact hchar (by omega)
  split at h
  case isTrue hdigit =>
    obtain rfl := Option.some.inj h
    refine ⟨by omega, ?_⟩
    rw [letter, if_neg (by omega), if_neg (by omega), if_pos (by omega)]
    exact hchar (by omega)
  split at h
  case isTrue hplus =>
    obtain rfl := Option.some.inj h
    exact ⟨by omega, hchar hplus.symm⟩
  split at h
  case isTrue hslash =>
    obtain rfl := Option.some.inj h
    exact ⟨by omega, hchar hslash.symm⟩
  cases h

/-- A number below 256 is that of the byte it makes. -/
theorem toNat_toUInt8 {n : Nat} (h : n < 256) : n.toUInt8.toNat = n := UInt8.toNat_ofNat_of_lt h

/-- Where one byte is read in front of two pads, it is written so. -/
theorem encode_of_decodeOne? {a b : Char} {bytes : List UInt8} (h : decodeOne? a b = some bytes) :
    [a, b, '=', '='] = encode bytes := by
  simp only [decodeOne?, Option.bind_eq_bind, Option.bind_eq_some_iff] at h
  obtain ⟨x, hx, y, hy, h⟩ := h
  obtain ⟨hx, rfl⟩ := letter_of_sextet? hx
  obtain ⟨hy, rfl⟩ := letter_of_sextet? hy
  split at h
  case isTrue hunused =>
    obtain rfl := Option.some.inj h
    have hbyte : (x * 4 + y / 16).toUInt8.toNat = x * 4 + y / 16 := toNat_toUInt8 (by omega)
    have hfirst : (x * 4 + y / 16) / 4 = x := by omega
    have hsecond : (x * 4 + y / 16) % 4 * 16 = y := by omega
    rw [encode, hbyte, hfirst, hsecond]
  case isFalse => cases h

/-- So are two bytes in front of one pad, -/
theorem encode_of_decodeTwo? {a b c : Char} {bytes : List UInt8}
    (h : decodeTwo? a b c = some bytes) : [a, b, c, '='] = encode bytes := by
  simp only [decodeTwo?, Option.bind_eq_bind, Option.bind_eq_some_iff] at h
  obtain ⟨x, hx, y, hy, z, hz, h⟩ := h
  obtain ⟨hx, rfl⟩ := letter_of_sextet? hx
  obtain ⟨hy, rfl⟩ := letter_of_sextet? hy
  obtain ⟨hz, rfl⟩ := letter_of_sextet? hz
  split at h
  case isTrue hunused =>
    obtain rfl := Option.some.inj h
    have hone : (x * 4 + y / 16).toUInt8.toNat = x * 4 + y / 16 := toNat_toUInt8 (by omega)
    have htwo : (y % 16 * 16 + z / 4).toUInt8.toNat = y % 16 * 16 + z / 4 :=
      toNat_toUInt8 (by omega)
    have hfirst : (x * 4 + y / 16) / 4 = x := by omega
    have hsecond : (x * 4 + y / 16) % 4 * 16 + (y % 16 * 16 + z / 4) / 16 = y := by omega
    have hthird : (y % 16 * 16 + z / 4) % 16 * 4 = z := by omega
    rw [encode, hone, htwo, hfirst, hsecond, hthird]
  case isFalse => cases h

/-- and three bytes in front of others. -/
theorem encode_of_decodeThree? {a b c d : Char} {bytes : List UInt8}
    (h : decodeThree? a b c d = some bytes) (more : List UInt8) :
    a :: b :: c :: d :: encode more = encode (bytes ++ more) := by
  simp only [decodeThree?, Option.bind_eq_bind, Option.bind_eq_some_iff] at h
  obtain ⟨x, hx, y, hy, z, hz, w, hw, h⟩ := h
  obtain ⟨hx, rfl⟩ := letter_of_sextet? hx
  obtain ⟨hy, rfl⟩ := letter_of_sextet? hy
  obtain ⟨hz, rfl⟩ := letter_of_sextet? hz
  obtain ⟨hw, rfl⟩ := letter_of_sextet? hw
  obtain rfl := Option.some.inj h
  have hone : (x * 4 + y / 16).toUInt8.toNat = x * 4 + y / 16 := toNat_toUInt8 (by omega)
  have htwo : (y % 16 * 16 + z / 4).toUInt8.toNat = y % 16 * 16 + z / 4 := toNat_toUInt8 (by omega)
  have hthree : (z % 4 * 64 + w).toUInt8.toNat = z % 4 * 64 + w := toNat_toUInt8 (by omega)
  have hfirst : (x * 4 + y / 16) / 4 = x := by omega
  have hsecond : (x * 4 + y / 16) % 4 * 16 + (y % 16 * 16 + z / 4) / 16 = y := by omega
  have hthird : (y % 16 * 16 + z / 4) % 16 * 4 + (z % 4 * 64 + w) / 64 = z := by omega
  have hfourth : (z % 4 * 64 + w) % 64 = w := by omega
  rw [List.cons_append, List.cons_append, List.cons_append, List.nil_append, encode, hone, htwo,
    hthree, hfirst, hsecond, hthird, hfourth]

/-- What is read is written as it was. -/
theorem encode_of_decode? {text : List Char} {bytes : List UInt8} (h : decode? text = some bytes) :
    text = encode bytes := by
  induction text using decode?.induct generalizing bytes with
  | case1 =>
    obtain rfl := Option.some.inj h
    rfl
  | case2 a b d rest hlast =>
    rw [decode?, if_pos hlast, if_pos rfl] at h
    obtain ⟨rfl, rfl⟩ := hlast
    exact encode_of_decodeOne? h
  | case3 a b c d rest hlast hpad =>
    rw [decode?, if_pos hlast, if_neg hpad] at h
    obtain ⟨rfl, rfl⟩ := hlast
    exact encode_of_decodeTwo? h
  | case4 a b c d rest hmore ih =>
    rw [decode?, if_neg hmore] at h
    simp only [Option.bind_eq_bind, Option.bind_eq_some_iff] at h
    obtain ⟨group, hgroup, more, hrest, h⟩ := h
    obtain rfl := Option.some.inj h
    rw [ih hrest]
    exact encode_of_decodeThree? hgroup more
  | case5 text hnil hgroup =>
    rcases text with _ | ⟨a, _ | ⟨b, _ | ⟨c, _ | ⟨d, rest⟩⟩⟩⟩
    · exact (hnil rfl).elim
    · cases h
    · cases h
    · cases h
    · exact (hgroup a b c d rest rfl).elim

/-- A text has the form of some bytes just if it is read as them. -/
theorem canonical_iff_decode? {text : List Char} {bytes : List UInt8} :
    Canonical text bytes ↔ decode? text = some bytes := by
  rw [canonical_iff]
  constructor
  · rintro rfl
    exact decode?_encode bytes
  · exact encode_of_decode?

end PacketTunnel.Base64
