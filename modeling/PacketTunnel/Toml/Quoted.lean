import PacketTunnel.Text.Numeral
import PacketTunnel.Toml.Lexis

/-!
# Quoted texts of TOML

A text stands between double quotes, where a backslash begins an escape, or between single quotes,
where every character stands for itself. Three quotes in a row begin and end a text of several
lines. A line end right behind the opening is not part of the text. Up to two quotes may stand in
front of the closing three.
-/

namespace PacketTunnel.Toml.Quoted

open Text

/-- The character of a run of hexadecimal digits. -/
def codePoint? (digits : List Char) : Option Char :=
  if digits.all (Numeral.isDigit 16) then
    let n := Numeral.value 16 digits
    if n.isValidChar then some (Char.ofNat n) else none
  else none

/-- The escape behind a backslash: its character, and how many characters it takes up. -/
def escape? (text : List Char) : Option (Char × Nat) :=
  match text with
  | 'b' :: _ => some ('\x08', 1)
  | 't' :: _ => some ('\t', 1)
  | 'n' :: _ => some ('\n', 1)
  | 'f' :: _ => some ('\x0c', 1)
  | 'r' :: _ => some ('\r', 1)
  | '\x22' :: _ => some ('\x22', 1)
  | '\\' :: _ => some ('\\', 1)
  | 'u' :: rest => if rest.length < 4 then none else (codePoint? (rest.take 4)).map (·, 5)
  | 'U' :: rest => if rest.length < 8 then none else (codePoint? (rest.take 8)).map (·, 9)
  | _ => none

/-- The rest of a text of one line between double quotes, and what follows it. -/
def basic? : (text : List Char) → Option (List Char × List Char)
  | [] => none
  | c :: rest =>
    if c = '\x22' then some ([], rest)
    else if c = '\\' then do
      let (x, width) ← escape? rest
      let (chars, rest) ← basic? (rest.drop width)
      return (x :: chars, rest)
    else if isBasicChar c then do
      let (chars, rest) ← basic? rest
      return (c :: chars, rest)
    else none
termination_by text => text.length
decreasing_by
  · simp only [List.length_drop, List.length_cons]
    omega
  · simp only [List.length_cons]
    omega

/-- The rest of a text of one line between single quotes, and what follows it. -/
def literal? : List Char → Option (List Char × List Char)
  | [] => none
  | c :: rest =>
    if c = '\'' then some ([], rest)
    else if isLiteralChar c then do
      let (chars, rest) ← literal? rest
      return (c :: chars, rest)
    else none

/-- The quotes of the text behind three closing ones, and what follows them. Of more than three
quotes in a row the last three close. -/
def closing (quote : Char) (rest : List Char) : List Char × List Char :=
  let extra := (rest.take 2).takeWhile (· = quote)
  (extra, rest.drop extra.length)

/-- The number of characters of an escaped line end: blanks, the line end, and all blanks and line
ends behind it. -/
def escapedLineEnd? (text : List Char) : Option Nat :=
  match dropBlanks text with
  | '\n' :: rest => some (text.length - (dropLines rest).length)
  | _ => none

/-- The rest of a text of several lines between double quotes, and what follows it. -/
def basicLines? : (text : List Char) → Option (List Char × List Char)
  | [] => none
  | c :: rest =>
    if c = '\x22' then
      if rest.take 2 = ['\x22', '\x22'] then some (closing '\x22' (rest.drop 2))
      else do
        let (chars, rest) ← basicLines? rest
        return (c :: chars, rest)
    else if c = '\\' then
      match escapedLineEnd? rest with
      | some width => basicLines? (rest.drop width)
      | none => do
        let (x, width) ← escape? rest
        let (chars, rest) ← basicLines? (rest.drop width)
        return (x :: chars, rest)
    else if c = '\n' ∨ isBasicChar c then do
      let (chars, rest) ← basicLines? rest
      return (c :: chars, rest)
    else none
termination_by text => text.length
decreasing_by
  · simp only [List.length_cons]
    omega
  · simp only [List.length_drop, List.length_cons]
    omega
  · simp only [List.length_drop, List.length_cons]
    omega
  · simp only [List.length_cons]
    omega

/-- The rest of a text of several lines between single quotes, and what follows it. -/
def literalLines? : List Char → Option (List Char × List Char)
  | [] => none
  | '\'' :: '\'' :: '\'' :: rest => some (closing '\'' rest)
  | c :: rest =>
    if c = '\n' ∨ isCommentChar c then do
      let (chars, rest) ← literalLines? rest
      return (c :: chars, rest)
    else none

/-- A text without the line end at its front. -/
def dropLineEnd : List Char → List Char
  | '\n' :: rest => rest
  | text => text

/-- The quoted text of one line at the front, and what follows it. -/
def line? : List Char → Option (List Char × List Char)
  | '\x22' :: rest => basic? rest
  | '\'' :: rest => literal? rest
  | _ => none

/-- The quoted text at the front, and what follows it. -/
def read? : List Char → Option (List Char × List Char)
  | '\x22' :: '\x22' :: '\x22' :: rest => basicLines? (dropLineEnd rest)
  | '\'' :: '\'' :: '\'' :: rest => literalLines? (dropLineEnd rest)
  | text => line? text

end PacketTunnel.Toml.Quoted
