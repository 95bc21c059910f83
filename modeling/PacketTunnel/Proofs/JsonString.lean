import PacketTunnel.Json.Reader
import PacketTunnel.Json.Writer

/-!
# Strings in JSON, read as they were written

Every character is written in one of three ways: escaped by a letter, escaped by its code, or as it
stands. The scanner takes each of them for the character it was written for, so a written string
reads as itself, whatever follows its closing quote.
-/

namespace PacketTunnel

namespace Text.Utf8

theorem encode_append (a b : List Char) : encode (a ++ b) = encode a ++ encode b :=
  List.flatMap_append

theorem encode_cons (c : Char) (text : List Char) :
    encode (c :: text) = String.utf8EncodeChar c ++ encode text := List.flatMap_cons

/-- An ASCII character is its own byte. -/
theorem utf8EncodeChar_ascii {c : Char} (h : c.toNat < 128) :
    String.utf8EncodeChar c = [c.toNat.toUInt8] := by
  have hs : c.utf8Size = 1 := by
    rw [Char.utf8Size_eq_one_iff, UInt32.le_iff_toNat_le]
    exact Nat.lt_succ_iff.mp h
  rw [String.utf8EncodeChar_eq_singleton hs]
  rfl

/-- A character beyond ASCII begins with a byte beyond ASCII. -/
theorem utf8EncodeChar_beyond {c : Char} (h : 128 ≤ c.toNat) :
    ∃ b rest, String.utf8EncodeChar c = b :: rest ∧ 128 ≤ b.toNat := by
  have hc : ¬ c.val.toNat ≤ 127 := Nat.not_le.mpr h
  simp only [String.utf8EncodeChar, hc, ite_false]
  split
  · refine ⟨_, _, rfl, ?_⟩
    simp only [UInt8.toNat_ofNat']
    omega
  · split
    · refine ⟨_, _, rfl, ?_⟩
      simp only [UInt8.toNat_ofNat']
      omega
    · refine ⟨_, _, rfl, ?_⟩
      simp only [UInt8.toNat_ofNat']
      omega

end Text.Utf8

namespace Json

open Text

/-- A control character has two zeros and two digits behind the `u` of its escape. -/
theorem padded_hexadecimal : ∀ n < 32, Numeral.padded 4 (Numeral.hexadecimal n) =
    ['0', '0', Nat.digitChar (n / 16), Nat.digitChar (n % 16)] := by
  decide

theorem digitChar_lt : ∀ k < 16, (Nat.digitChar k).toNat < 128 := by
  decide

theorem hexDigit?_digitChar : ∀ k < 16, hexDigit? (Nat.digitChar k).toNat.toUInt8 = some k := by
  decide

/-- How a character is written: escaped by a letter, escaped by its code, or as it stands. -/
theorem charChars_cases (c : Char) :
    (∃ letter : Char, letter.toNat < 128 ∧ charChars c = ['\\', letter] ∧
      shortEscape? letter.toNat.toUInt8 = some c) ∨
    (c.toNat < 32 ∧ charChars c =
      ['\\', 'u'] ++ Numeral.padded 4 (Numeral.hexadecimal c.toNat)) ∨
    (c ≠ '\x22' ∧ c ≠ '\\' ∧ 32 ≤ c.toNat ∧ charChars c = [c]) := by
  by_cases hquote : c = '\x22'
  · exact .inl ⟨'\x22', by decide, by rw [hquote]; rfl, by rw [hquote]; rfl⟩
  by_cases hback : c = '\\'
  · exact .inl ⟨'\\', by decide, by rw [hback]; rfl, by rw [hback]; rfl⟩
  by_cases hb : c = '\x08'
  · exact .inl ⟨'b', by decide, by rw [hb]; rfl, by rw [hb]; rfl⟩
  by_cases hf : c = '\x0c'
  · exact .inl ⟨'f', by decide, by rw [hf]; rfl, by rw [hf]; rfl⟩
  by_cases hn : c = '\n'
  · exact .inl ⟨'n', by decide, by rw [hn]; rfl, by rw [hn]; rfl⟩
  by_cases hr : c = '\r'
  · exact .inl ⟨'r', by decide, by rw [hr]; rfl, by rw [hr]; rfl⟩
  by_cases ht : c = '\t'
  · exact .inl ⟨'t', by decide, by rw [ht]; rfl, by rw [ht]; rfl⟩
  have hchars : charChars c = if c.toNat < 32 then
      ['\\', 'u'] ++ Numeral.padded 4 (Numeral.hexadecimal c.toNat) else [c] := by
    rw [charChars, if_neg hquote, if_neg hback, if_neg hb, if_neg hf, if_neg hn, if_neg hr,
      if_neg ht]
  by_cases hcontrol : c.toNat < 32
  · exact .inr (.inl ⟨hcontrol, by rw [hchars, if_pos hcontrol]⟩)
  · exact .inr (.inr ⟨hquote, hback, Nat.not_lt.mp hcontrol, by rw [hchars, if_neg hcontrol]⟩)

/-- A letter that escapes a character is read as that character. -/
theorem scanEscape_letter {b : UInt8} {c : Char} (h : shortEscape? b = some c)
    (rest : List UInt8) (offset : Nat) :
    scanEscape ⟨b :: rest, offset⟩ = .ok (c, ⟨rest, offset + 1⟩) := by
  simp only [scanEscape, h, Cursor.skip, List.drop_one, List.tail_cons]

/-- Four hexadecimal digits are read as their number. -/
theorem scanHex_digits {a b d e : UInt8} {h i j k : Nat} (ha : hexDigit? a = some h)
    (hb : hexDigit? b = some i) (hd : hexDigit? d = some j) (he : hexDigit? e = some k)
    (rest : List UInt8) (offset : Nat) :
    scanHex ⟨a :: b :: d :: e :: rest, offset⟩ =
      .ok (((h * 16 + i) * 16 + j) * 16 + k, ⟨rest, offset + 4⟩) := by
  simp only [scanHex, ha, hb, hd, he, Cursor.skip, List.drop_succ_cons, List.drop_zero]

/-- A code below the surrogates is read as its character. -/
theorem scanCode_below {c d : Cursor} {n : Nat} (h : scanHex c = .ok (n, d))
    (hn : n < 0xd800) : scanCode c = .ok (Char.ofNat n, d) := by
  have hlow : ¬ (0xdc00 ≤ n ∧ n ≤ 0xdfff) := by omega
  have hplain : n < 0xd800 ∨ 0xdbff < n := .inl hn
  rw [scanCode, h]
  simp only [bind, Except.bind, hlow, hplain, ite_true, ite_false]

/-- The four digits of a control character's code, as bytes. -/
theorem encode_padded {n : Nat} (h : n < 32) :
    Utf8.encode (Numeral.padded 4 (Numeral.hexadecimal n)) =
      [0x30, 0x30, (Nat.digitChar (n / 16)).toNat.toUInt8,
        (Nat.digitChar (n % 16)).toNat.toUInt8] := by
  rw [padded_hexadecimal _ h]
  simp only [Utf8.encode_cons, Utf8.utf8EncodeChar_ascii (digitChar_lt (n / 16) (by omega)),
    Utf8.utf8EncodeChar_ascii (digitChar_lt (n % 16) (by omega))]
  rfl

/-- The escape of a control character by its code is read as that character. -/
theorem scanEscape_code {c : Char} (h : c.toNat < 32) (rest : List UInt8) (offset : Nat) :
    scanEscape ⟨0x75 :: (Utf8.encode (Numeral.padded 4 (Numeral.hexadecimal c.toNat)) ++ rest),
      offset⟩ = .ok (c, ⟨rest, offset + 5⟩) := by
  have hzero : hexDigit? 0x30 = some 0 := rfl
  have hhex := scanHex_digits hzero hzero (hexDigit?_digitChar (c.toNat / 16) (by omega))
    (hexDigit?_digitChar (c.toNat % 16) (by omega)) rest (offset + 1)
  have hnumber : ((0 * 16 + 0) * 16 + c.toNat / 16) * 16 + c.toNat % 16 = c.toNat := by omega
  rw [hnumber] at hhex
  rw [encode_padded h]
  change scanCode ⟨_, offset + 1⟩ = _
  exact (scanCode_below hhex (by omega)).trans (by rw [Char.ofNat_toNat])

/-- Behind a backslash the scanner goes on where the escape ends. -/
theorem scanString_escape {tail rest : List UInt8} {offset size : Nat} {read : List Char}
    {x : Char} {length : Nat} (hlength : tail.drop length = rest)
    (h : scanEscape ⟨tail, offset + 1⟩ = .ok (x, ⟨rest, offset + 1 + length⟩)) :
    scanString (0x5c :: tail) offset read size none =
      scanString rest (offset + 1 + length) (x :: read) (size + x.utf8Size) none := by
  have hquote : (0x5c : UInt8) ≠ 0x22 := by decide
  rw [scanString]
  simp only [hquote, ite_false, ite_true, h, Nat.add_sub_cancel_left, hlength]

/-- A character that stands for itself is taken off the front. -/
theorem scanString_plain {c : Char} (hquote : c ≠ '\x22') (hback : c ≠ '\\')
    (hcontrol : 32 ≤ c.toNat) (rest : List UInt8) (offset size : Nat) (read : List Char) :
    scanString (String.utf8EncodeChar c ++ rest) offset read size none =
      scanString rest (offset + c.utf8Size) (c :: read) (size + c.utf8Size) none := by
  obtain ⟨b, tail, hbytes, hne, hnb, hge⟩ : ∃ b tail, String.utf8EncodeChar c = b :: tail ∧
      b ≠ 0x22 ∧ b ≠ 0x5c ∧ ¬ b < 0x20 := by
    rcases Nat.lt_or_ge c.toNat 128 with hascii | hbeyond
    · have hb : c.toNat.toUInt8.toNat = c.toNat := by
        rw [Nat.toUInt8_eq, UInt8.toNat_ofNat']
        omega
      refine ⟨_, _, Utf8.utf8EncodeChar_ascii hascii, ?_, ?_, ?_⟩
      · intro h
        apply hquote
        rw [← Char.ofNat_toNat c, ← hb, h]
        rfl
      · intro h
        apply hback
        rw [← Char.ofNat_toNat c, ← hb, h]
        rfl
      · rw [UInt8.lt_iff_toNat_lt, hb]
        exact Nat.not_lt.mpr hcontrol
    · obtain ⟨b, tail, hbytes, hb⟩ := Utf8.utf8EncodeChar_beyond hbeyond
      refine ⟨b, tail, hbytes, ?_, ?_, ?_⟩
      · rintro rfl
        exact absurd hb (by decide)
      · rintro rfl
        exact absurd hb (by decide)
      · rw [UInt8.lt_iff_toNat_lt]
        exact Nat.not_lt.mpr (Nat.le_trans (by decide) hb)
  have hfront := Utf8.front?_utf8EncodeChar_append c rest
  have hdrop : (String.utf8EncodeChar c ++ rest).drop c.utf8Size = rest := by
    rw [← String.length_utf8EncodeChar, List.drop_left]
  rw [hbytes, List.cons_append] at hfront hdrop ⊢
  rw [scanString]
  simp only [hne, hnb, hge, ite_false, hfront, hdrop]

/-- A written character is read as itself. -/
theorem scanString_charChars (c : Char) (rest : List UInt8) (offset size : Nat)
    (read : List Char) :
    scanString (Utf8.encode (charChars c) ++ rest) offset read size none =
      scanString rest (offset + (Utf8.encode (charChars c)).length) (c :: read)
        (size + c.utf8Size) none := by
  have hback : String.utf8EncodeChar '\\' = [0x5c] := rfl
  rcases charChars_cases c with ⟨letter, hascii, hchars, hletter⟩ | ⟨hcontrol, hchars⟩ |
    ⟨hquote, hback', hge, hchars⟩
  · rw [hchars]
    have hbytes : Utf8.encode ['\\', letter] = [0x5c, letter.toNat.toUInt8] := by
      simp only [Utf8.encode_cons, hback, Utf8.utf8EncodeChar_ascii hascii]
      rfl
    have hdrop : (letter.toNat.toUInt8 :: rest).drop 1 = rest := rfl
    rw [hbytes]
    exact scanString_escape hdrop (scanEscape_letter hletter rest (offset + 1))
  · have hsize : (Utf8.encode (Numeral.padded 4 (Numeral.hexadecimal c.toNat))).length = 4 := by
      rw [encode_padded hcontrol]
      rfl
    have hbytes : Utf8.encode (charChars c) = 0x5c :: 0x75 ::
        Utf8.encode (Numeral.padded 4 (Numeral.hexadecimal c.toNat)) := by
      rw [hchars, Utf8.encode_append]
      rfl
    have hdrop : (0x75 :: (Utf8.encode (Numeral.padded 4 (Numeral.hexadecimal c.toNat)) ++
        rest)).drop 5 = rest := by
      rw [List.drop_succ_cons, List.drop_append_of_le_length (Nat.le_of_eq hsize.symm),
        List.drop_of_length_le (Nat.le_of_eq hsize), List.nil_append]
    rw [hbytes, List.cons_append, List.cons_append, List.length_cons, List.length_cons, hsize]
    exact scanString_escape hdrop (scanEscape_code hcontrol rest (offset + 1))
  · rw [hchars]
    have hbytes : Utf8.encode [c] = String.utf8EncodeChar c := by
      rw [Utf8.encode_cons]
      exact List.append_nil _
    rw [hbytes, String.length_utf8EncodeChar]
    exact scanString_plain hquote hback' hge rest offset size read

/-- The characters of a written string are read one by one up to the closing quote. -/
theorem scanString_written (text : List Char) (rest : List UInt8) (offset size : Nat)
    (read : List Char) :
    scanString (Utf8.encode (text.flatMap charChars) ++ 0x22 :: rest) offset read size none =
      .ok (read.reverse ++ text,
        ⟨rest, offset + (Utf8.encode (text.flatMap charChars)).length + 1⟩) := by
  induction text generalizing offset size read with
  | nil =>
    have hnil : Utf8.encode (List.flatMap charChars []) = [] := rfl
    rw [hnil, List.nil_append, scanString]
    simp only [ite_true, List.append_nil, List.length_nil, Nat.add_zero]
  | cons c text ih =>
    rw [List.flatMap_cons, Utf8.encode_append, List.append_assoc, scanString_charChars, ih]
    simp only [List.reverse_cons, List.append_assoc, List.singleton_append, List.length_append,
      Nat.add_assoc]

end Json

end PacketTunnel
