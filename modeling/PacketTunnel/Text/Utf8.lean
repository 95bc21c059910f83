/-!
# UTF-8

Bytes and characters. Decoding takes characters off the front of the bytes, so it agrees with the
encoder on everything that it writes. Bytes that are no UTF-8 are decoded with losses: one
replacement character stands in the place of each longest ill-formed prefix.
-/

namespace PacketTunnel.Text.Utf8

/-- The bytes of a list of characters. -/
def encode (text : List Char) : List UInt8 := text.flatMap String.utf8EncodeChar

/-- How many bytes a list of characters takes. -/
def size (text : List Char) : Nat := (encode text).length

/-- Cut a text at a place counted in bytes, unless the place is inside a character or behind the
end. -/
def splitAt? : (place : Nat) → List Char → Option (List Char × List Char)
  | 0, text => some ([], text)
  | _ + 1, [] => none
  | place + 1, c :: rest =>
    if c.utf8Size ≤ place + 1 then
      (splitAt? (place + 1 - c.utf8Size) rest).map fun (front, back) => (c :: front, back)
    else none

/-- The bytes of a string. -/
def ofString (s : String) : List UInt8 := encode s.toList

/-- The character at the front of some bytes: no character needs more than four. -/
def front? (bytes : List UInt8) : Option Char := (bytes.take 4).toByteArray.utf8DecodeChar? 0

/-- The bytes allowed behind a first byte, and how many bytes the character needs after the
first; one row per kind of first byte. -/
def secondRange? (first : UInt8) : Option (UInt8 × UInt8 × Nat) :=
  if 0xc2 ≤ first ∧ first ≤ 0xdf then some (0x80, 0xbf, 1)
  else if first = 0xe0 then some (0xa0, 0xbf, 2)
  else if first = 0xed then some (0x80, 0x9f, 2)
  else if 0xe1 ≤ first ∧ first ≤ 0xef then some (0x80, 0xbf, 2)
  else if first = 0xf0 then some (0x90, 0xbf, 3)
  else if 0xf1 ≤ first ∧ first ≤ 0xf3 then some (0x80, 0xbf, 3)
  else if first = 0xf4 then some (0x80, 0x8f, 3)
  else none

/-- Whether a byte continues a character. -/
def isContinuation (b : UInt8) : Bool := 0x80 ≤ b && b ≤ 0xbf

/-- How many bytes at the front could begin a character: at least one. -/
def illFormedLength : List UInt8 → Nat
  | first :: second :: rest =>
    match secondRange? first with
    | none => 1
    | some (low, high, needed) =>
      if low ≤ second ∧ second ≤ high then
        2 + ((rest.take (needed - 1)).takeWhile isContinuation).length
      else 1
  | _ => 1

/-- The replacement character. -/
def replacement : Char := '\ufffd'

/-- The characters that bytes encode, ill-formed parts replaced. -/
def decodeLossy (bytes : List UInt8) : List Char :=
  match bytes with
  | [] => []
  | b :: rest =>
    match front? (b :: rest) with
    | some c => c :: decodeLossy ((b :: rest).drop c.utf8Size)
    | none => replacement :: decodeLossy (rest.drop (illFormedLength (b :: rest) - 1))
termination_by bytes.length
decreasing_by
  · have := c.utf8Size_pos
    simp only [List.length_drop, List.length_cons]
    omega
  · simp only [List.length_drop, List.length_cons]
    omega

/-- A written character is the one read. -/
theorem front?_utf8EncodeChar_append (c : Char) (rest : List UInt8) :
    front? (String.utf8EncodeChar c ++ rest) = some c := by
  have hl : (String.utf8EncodeChar c).length ≤ 4 := by
    rw [String.length_utf8EncodeChar]
    exact c.utf8Size_le_four
  rw [front?, List.take_append, List.take_of_length_le hl, List.toByteArray_append]
  exact ByteArray.utf8DecodeChar?_utf8EncodeChar_append

/-- Every character has at least one byte. -/
theorem utf8EncodeChar_ne_nil (c : Char) : String.utf8EncodeChar c ≠ [] := by
  intro h
  have hl := String.length_utf8EncodeChar c
  rw [h] at hl
  have := c.utf8Size_pos
  simp at hl
  omega

end PacketTunnel.Text.Utf8
