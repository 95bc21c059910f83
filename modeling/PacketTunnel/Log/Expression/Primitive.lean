import PacketTunnel.Log.Expression.Mode
import PacketTunnel.Text.Numeral

/-!
# Primitives of an expression

The smallest pieces of a regular expression: characters, which may be written as escapes, classes by
one letter, and tests of a place. The pieces that need no table of characters are allowed: the
classes of letters, digits and blanks, word boundaries, and letters in either case are refused as
long as characters are matched. What is matched bytewise must still be made of whole characters.
-/

namespace PacketTunnel.Log.Expression

open Text

/-- A smallest piece of an expression. -/
inductive Primitive where
  /-- A character. -/
  | literal (c : Char)
  /-- A character, or a byte, by its number. -/
  | byte (n : Nat)
  /-- Any character. -/
  | dot
  /-- A class of characters, or all others. -/
  | charClass (negated : Bool)
  /-- The beginning or the end of the text. -/
  | anchor
  /-- A place where a word begins or ends. -/
  | boundary
  deriving DecidableEq, Repr

/-- Read `count` hexadecimal digits. -/
def digits? (m : Mode) : (count : Nat) → List Char → Option (List Char × List Char)
  | 0, text => some ([], m.advance text)
  | count + 1, text =>
    match m.advance text with
    | [] => none
    | c :: rest =>
      if Numeral.isDigit 16 c then
        (digits? m count rest).map fun (digits, rest) => (c :: digits, rest)
      else none

/-- Read the number of a character, written with `count` hexadecimal digits. -/
def number? (m : Mode) (count : Nat) (text : List Char) : Option (Nat × List Char) := do
  let (digits, rest) ← digits? m count text
  let n := Numeral.value 16 digits
  if n.isValidChar then some (n, rest) else none

/-- The control characters that have a letter. -/
def controls : List (Char × Char) :=
  [('a', '\x07'), ('f', '\x0c'), ('n', '\n'), ('r', '\r'), ('t', '\t'), ('v', '\x0b')]

namespace Primitive

/-- Read an escape behind its backslash. -/
def escaped? (m : Mode) : List Char → Option (Primitive × List Char)
  | [] => none
  | c :: rest =>
    if c = 'x' then (number? m 2 rest).map fun (n, rest) => (byte n, rest)
    else if c = 'u' then (number? m 4 rest).map fun (n, rest) => (literal (Char.ofNat n), rest)
    else if c = 'U' then (number? m 8 rest).map fun (n, rest) => (literal (Char.ofNat n), rest)
    else if c ∈ ['d', 's', 'w'] then some (charClass false, rest)
    else if c ∈ ['D', 'S', 'W'] then some (charClass true, rest)
    else if c ∈ ['A', 'z'] then some (anchor, rest)
    else if c ∈ ['b', 'B', '<', '>'] then some (boundary, rest)
    else if c.toNat < 128 ∧ !c.isAlphanum then some (literal c, rest)
    else (controls.lookup c).map fun control => (literal control, rest)

/-- Read a primitive outside a class. -/
def read? (m : Mode) : List Char → Option (Primitive × List Char)
  | [] => none
  | '\\' :: rest => escaped? m rest
  | '.' :: rest => some (dot, rest)
  | '^' :: rest => some (anchor, rest)
  | '$' :: rest => some (anchor, rest)
  | c :: rest => some (literal c, rest)

/-- Whether a primitive may stand outside a class. -/
def allowed (m : Mode) : Primitive → Bool
  | literal _ => !m.needsCases
  | byte n => !m.needsCases && (m.unicode || n < 128)
  | dot => m.unicode
  | charClass negated => !m.unicode && !negated
  | anchor => true
  | boundary => !m.unicode

end Primitive

end PacketTunnel.Log.Expression
