import PacketTunnel.Key.Shape
import PacketTunnel.Proofs.NumeralText

/-!
# Keys, read as they were written

Every sextet has its letter, and three bytes are four sextets; one or two bytes at the end leave
unused bits, which are zero. No letter is a blank, so nothing is trimmed off a written key, and its
32 bytes come back.
-/

namespace PacketTunnel

open Text

namespace Base64

theorem sextet?_letter : ∀ n < 64, sextet? (letter n) = some n := by
  decide

theorem letter_ne_pad : ∀ n < 64, letter n ≠ '=' := by
  decide

theorem isBlank_letter : ∀ n < 64, isBlank (letter n) = false := by
  decide

/-- A number that is a byte's is that byte. -/
theorem toUInt8_eq {n : Nat} {b : UInt8} (h : n = b.toNat) : n.toUInt8 = b := by
  rw [h, Nat.toUInt8_eq, UInt8.ofNat_toNat]

theorem decodeOne?_letters (a : UInt8) :
    decodeOne? (letter (a.toNat / 4)) (letter (a.toNat % 4 * 16)) = some [a] := by
  have ha := a.toNat_lt
  have hunused : a.toNat % 4 * 16 % 16 = 0 := by omega
  have hbyte : (a.toNat / 4 * 4 + a.toNat % 4 * 16 / 16).toUInt8 = a := toUInt8_eq (by omega)
  rw [decodeOne?, sextet?_letter _ (by omega), sextet?_letter _ (by omega)]
  simp only [Option.bind_eq_bind, Option.bind_some, hunused, ite_true, hbyte]

theorem decodeTwo?_letters (a b : UInt8) :
    decodeTwo? (letter (a.toNat / 4)) (letter (a.toNat % 4 * 16 + b.toNat / 16))
      (letter (b.toNat % 16 * 4)) = some [a, b] := by
  have ha := a.toNat_lt
  have hb := b.toNat_lt
  have hunused : b.toNat % 16 * 4 % 4 = 0 := by omega
  have hfirst : (a.toNat / 4 * 4 + (a.toNat % 4 * 16 + b.toNat / 16) / 16).toUInt8 = a :=
    toUInt8_eq (by omega)
  have hsecond : ((a.toNat % 4 * 16 + b.toNat / 16) % 16 * 16 + b.toNat % 16 * 4 / 4).toUInt8 = b :=
    toUInt8_eq (by omega)
  rw [decodeTwo?, sextet?_letter _ (by omega), sextet?_letter _ (by omega),
    sextet?_letter _ (by omega)]
  simp only [Option.bind_eq_bind, Option.bind_some, hunused, ite_true, hfirst, hsecond]

theorem decodeThree?_letters (a b c : UInt8) :
    decodeThree? (letter (a.toNat / 4)) (letter (a.toNat % 4 * 16 + b.toNat / 16))
      (letter (b.toNat % 16 * 4 + c.toNat / 64)) (letter (c.toNat % 64)) = some [a, b, c] := by
  have ha := a.toNat_lt
  have hb := b.toNat_lt
  have hc := c.toNat_lt
  have hfirst : (a.toNat / 4 * 4 + (a.toNat % 4 * 16 + b.toNat / 16) / 16).toUInt8 = a :=
    toUInt8_eq (by omega)
  have hsecond : ((a.toNat % 4 * 16 + b.toNat / 16) % 16 * 16 +
      (b.toNat % 16 * 4 + c.toNat / 64) / 4).toUInt8 = b := toUInt8_eq (by omega)
  have hthird : ((b.toNat % 16 * 4 + c.toNat / 64) % 4 * 64 + c.toNat % 64).toUInt8 = c :=
    toUInt8_eq (by omega)
  rw [decodeThree?, sextet?_letter _ (by omega), sextet?_letter _ (by omega),
    sextet?_letter _ (by omega), sextet?_letter _ (by omega)]
  simp only [Option.bind_eq_bind, Option.bind_some, hfirst, hsecond, hthird]

/-- Written bytes are read as themselves. -/
theorem decode?_encode (bytes : List UInt8) : decode? (encode bytes) = some bytes := by
  induction bytes using encode.induct with
  | case1 => rfl
  | case2 a =>
    rw [encode, decode?, if_pos ⟨rfl, rfl⟩, if_pos rfl, decodeOne?_letters]
  | case3 a b =>
    have hb := b.toNat_lt
    rw [encode, decode?, if_pos ⟨rfl, rfl⟩, if_neg (letter_ne_pad _ (by omega)),
      decodeTwo?_letters]
  | case4 a b c rest ih =>
    have hpad : ¬ (encode rest = [] ∧ letter (c.toNat % 64) = '=') := fun h =>
      letter_ne_pad _ (by omega) h.2
    rw [encode, decode?, if_neg hpad, decodeThree?_letters, ih]
    rfl

/-- A written character is a letter or a pad. -/
theorem mem_encode {bytes : List UInt8} {c : Char} (h : c ∈ encode bytes) :
    c = '=' ∨ ∃ n < 64, c = letter n := by
  induction bytes using encode.induct with
  | case1 => exact absurd h List.not_mem_nil
  | case2 a =>
    have ha := a.toNat_lt
    simp only [encode, List.mem_cons, List.not_mem_nil, or_false, or_self] at h
    rcases h with rfl | rfl | rfl
    · exact .inr ⟨_, by omega, rfl⟩
    · exact .inr ⟨_, by omega, rfl⟩
    · exact .inl rfl
  | case3 a b =>
    have ha := a.toNat_lt
    have hb := b.toNat_lt
    simp only [encode, List.mem_cons, List.not_mem_nil, or_false] at h
    rcases h with rfl | rfl | rfl | rfl
    · exact .inr ⟨_, by omega, rfl⟩
    · exact .inr ⟨_, by omega, rfl⟩
    · exact .inr ⟨_, by omega, rfl⟩
    · exact .inl rfl
  | case4 a b c rest ih =>
    have ha := a.toNat_lt
    have hb := b.toNat_lt
    have hc := c.toNat_lt
    simp only [encode, List.mem_cons] at h
    rcases h with rfl | rfl | rfl | rfl | h
    · exact .inr ⟨_, by omega, rfl⟩
    · exact .inr ⟨_, by omega, rfl⟩
    · exact .inr ⟨_, by omega, rfl⟩
    · exact .inr ⟨_, by omega, rfl⟩
    · exact ih h

theorem isBlank_of_mem_encode {bytes : List UInt8} {c : Char} (h : c ∈ encode bytes) :
    isBlank c = false := by
  rcases mem_encode h with rfl | ⟨n, hn, rfl⟩
  · decide
  · exact isBlank_letter n hn

end Base64

/-- Nothing is trimmed off a text without blanks. -/
theorem Text.trim_of_forall {text : List Char} (h : ∀ c ∈ text, isBlank c = false) :
    trim text = text := by
  have hfront : Stops isBlank text := fun c hc => h c (List.mem_of_mem_head? hc)
  have hback : Stops isBlank text.reverse := fun c hc =>
    h c (List.mem_reverse.mp (List.mem_of_mem_head? hc))
  rw [trim, dropWhile_of_stops hfront, dropWhile_of_stops hback, List.reverse_reverse]

namespace KeyBytes

theorem ofList_toList (k : KeyBytes) : ofList k.toList = .ok k := by
  have harray : k.toList.toArray = k.toArray := Array.toArray_toList
  have hsize : k.toList.toArray.size = 32 := harray ▸ k.size_toArray
  rw [ofList, dif_pos hsize]
  exact congrArg Except.ok (Vector.toArray_inj.mp harray)

theorem ofBase64_base64 (k : KeyBytes) : ofBase64 k.base64 = .ok k := by
  rw [ofBase64, base64, Base64.text, String.toList_ofList,
    trim_of_forall fun c hc => Base64.isBlank_of_mem_encode hc, Base64.decode?_encode]
  exact ofList_toList k

end KeyBytes

theorem PublicKey.ofText_base64 (k : PublicKey) : PublicKey.ofText k.base64 = .ok k := by
  rw [ofText, ofBase64, base64, KeyBytes.ofBase64_base64]
  rfl

theorem PrivateKey.ofText_base64 (k : PrivateKey) : PrivateKey.ofText k.base64 = .ok k := by
  rw [ofText, ofBase64, base64, KeyBytes.ofBase64_base64]
  rfl

end PacketTunnel
