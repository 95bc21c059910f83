import PacketTunnel.Text.Numeral

/-!
# Hexadecimal bytes

Two lower-case digits for each byte; either case is read.
-/

namespace PacketTunnel.Text.Hex

/-- The two digits of a byte. -/
def byteChars (b : UInt8) : List Char :=
  [Nat.digitChar (b.toNat / 16), Nat.digitChar (b.toNat % 16)]

/-- The digits of some bytes. -/
def encode (bytes : List UInt8) : List Char := bytes.flatMap byteChars

/-- The digits of some bytes, as a string. -/
def text (bytes : List UInt8) : String := String.ofList (encode bytes)

/-- The bytes that a list of digits stands for. -/
def decode? : List Char → Option (List UInt8)
  | [] => some []
  | [_] => none
  | high :: low :: rest => do
    let h ← Numeral.digit? 16 high
    let l ← Numeral.digit? 16 low
    let bytes ← decode? rest
    some ((h * 16 + l).toUInt8 :: bytes)

end PacketTunnel.Text.Hex
