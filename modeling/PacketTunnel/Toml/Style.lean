import PacketTunnel.Text.Numeral
import PacketTunnel.Toml.Lexis

/-!
# Writing texts in TOML

A text is written in the plainest way that holds it: between double quotes if nothing in it needs an
escape, then between single quotes, then over several lines between three double or three single
quotes, and with escapes if none of these will do. A text of several lines begins in the line behind
its opening quotes.
-/

namespace PacketTunnel.Toml

open Text

/-- A way to write a text. -/
structure Style where
  /-- Whether single quotes stand around it, so that every character stands for itself. -/
  literal : Bool
  /-- Whether three quotes stand around it. -/
  tripled : Bool
  deriving DecidableEq, Repr

/-- Whether a character must be escaped everywhere: the controls but tab and line feed. -/
def isControl (c : Char) : Bool := (c.toNat < 0x20 && c ≠ '\t' && c ≠ '\n') || c.toNat = 0x7f

/-- The length of the longest run of a character; `behind` are in front already. -/
def longestRun (wanted : Char) (behind : Nat) : List Char → Nat
  | [] => behind
  | c :: rest =>
    if c = wanted then longestRun wanted (behind + 1) rest
    else max behind (longestRun wanted 0 rest)

/-- The number of hexadecimal digits of an escaped control. -/
def escapeWidth : Nat := 4

/-- The escape of a control. -/
def controlEscape (c : Char) : List Char :=
  '\\' :: 'u' :: Numeral.padded escapeWidth (Numeral.hexadecimal c.toNat |>.map Char.toUpper)

/-- A character between double quotes that is no double quote. -/
def basicChars (tripled : Bool) (c : Char) : List Char :=
  if c = '\\' then ['\\', '\\']
  else if c = '\t' then ['\\', 't']
  else if c = '\x08' then ['\\', 'b']
  else if c = '\x0c' then ['\\', 'f']
  else if c = '\r' then ['\\', 'r']
  else if c = '\n' then if tripled then ['\n'] else ['\\', 'n']
  else if isControl c then controlEscape c
  else [c]

/-- How many double quotes may stand in a row. -/
def Style.quotesInRow (s : Style) : Nat := if s.tripled then 2 else 0

/-- A text between double quotes; `behind` unescaped quotes stand directly in front of it. -/
def basicBody (s : Style) (behind : Nat) : List Char → List Char
  | [] => []
  | c :: rest =>
    if c = '\x22' then
      if behind < s.quotesInRow then '\x22' :: basicBody s (behind + 1) rest
      else '\\' :: '\x22' :: basicBody s 0 rest
    else basicChars s.tripled c ++ basicBody s 0 rest

namespace Style

/-- The style in which a text is written. -/
def ofText (text : List Char) : Style :=
  let hasLines := text.contains '\n'
  let needsEscape := text.any isControl
  let hasBackslash := text.contains '\\'
  let doubleQuotes := longestRun '\x22' 0 text
  let singleQuotes := longestRun '\'' 0 text
  if !needsEscape ∧ !hasBackslash ∧ doubleQuotes = 0 ∧ !hasLines then ⟨false, false⟩
  else if !needsEscape ∧ singleQuotes = 0 ∧ !hasLines then ⟨true, false⟩
  else if !needsEscape ∧ !hasBackslash ∧ doubleQuotes ≤ 2 then ⟨false, true⟩
  else if !needsEscape ∧ singleQuotes ≤ 2 then ⟨true, true⟩
  else ⟨false, hasLines⟩

/-- The quotes around a text. -/
def quotes (s : Style) : List Char :=
  List.replicate (if s.tripled then 3 else 1) (if s.literal then '\'' else '\x22')

/-- A text in a style. -/
def write (s : Style) (text : List Char) : List Char :=
  let opening := if s.tripled ∧ text.contains '\n' then ['\n'] else []
  let body := if s.literal then text else basicBody s 0 text
  s.quotes ++ opening ++ body ++ s.quotes

end Style

/-- The written form of a text. -/
def stringChars (text : String) : List Char := (Style.ofText text.toList).write text.toList

/-- An assignment in a line of its own. -/
def assignmentChars (name : String) (text : String) : List Char :=
  name.toList ++ [' ', '=', ' '] ++ stringChars text ++ ['\n']

/-- A header in a line of its own. -/
def headerChars (name : String) : List Char := '[' :: name.toList ++ [']', '\n']

end PacketTunnel.Toml
