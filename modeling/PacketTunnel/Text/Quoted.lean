import PacketTunnel.Text.Numeral
import PacketTunnel.Text.Printable

/-!
# Quoted text for diagnostics

A text between double quotes in which nothing is invisible: controls with short names have them,
and every other character that is not shown is given by its code point in braces.
-/

namespace PacketTunnel.Text.Quoted

/-- A character inside a quoted text. -/
def charChars (c : Char) : List Char :=
  if c = '\x00' then ['\\', '0']
  else if c = '\t' then ['\\', 't']
  else if c = '\r' then ['\\', 'r']
  else if c = '\n' then ['\\', 'n']
  else if c = '\x22' then ['\\', '\x22']
  else if c = '\\' then ['\\', '\\']
  else if isPrintable c then [c]
  else ['\\', 'u', '\x7b'] ++ Numeral.hexadecimal c.toNat ++ ['\x7d']

/-- A text between double quotes. -/
def text (s : String) : String :=
  String.ofList ('\x22' :: s.toList.flatMap charChars ++ ['\x22'])

end PacketTunnel.Text.Quoted
