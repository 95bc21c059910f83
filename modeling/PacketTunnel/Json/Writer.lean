import PacketTunnel.Text.Numeral

/-!
# Writing JSON

Values are written without blanks. Quotes, backslashes and control characters are escaped in a
string, with a letter where there is one; everything else stands as it is.
-/

namespace PacketTunnel.Json

open Text

/-- A character inside a string. -/
def charChars (c : Char) : List Char :=
  if c = '\x22' then ['\\', '\x22']
  else if c = '\\' then ['\\', '\\']
  else if c = '\x08' then ['\\', 'b']
  else if c = '\x0c' then ['\\', 'f']
  else if c = '\n' then ['\\', 'n']
  else if c = '\r' then ['\\', 'r']
  else if c = '\t' then ['\\', 't']
  else if c.toNat < 32 then ['\\', 'u'] ++ Numeral.padded 4 (Numeral.hexadecimal c.toNat)
  else [c]

/-- A string. -/
def stringChars (s : String) : List Char := '\x22' :: s.toList.flatMap charChars ++ ['\x22']

/-- The members of an object, each a key with its written value. -/
def memberChars : List (String × List Char) → List Char
  | [] => []
  | [(key, value)] => stringChars key ++ ':' :: value
  | (key, value) :: rest => stringChars key ++ ':' :: value ++ ',' :: memberChars rest

/-- An object. -/
def objectChars (fields : List (String × List Char)) : List Char :=
  '\x7b' :: memberChars fields ++ ['\x7d']

/-- The null value. -/
def nullChars : List Char := ['n', 'u', 'l', 'l']

end PacketTunnel.Json
