/-!
# The characters of TOML

What may stand between tokens: blanks, comments and line ends. A carriage return counts only in
front of a line feed, where both together are one line end; they are made one before anything else
is read, and a carriage return that is left over is no character of the format.
-/

namespace PacketTunnel.Toml

/-- Turn every pair of a carriage return and a line feed into a line feed. -/
def joinLineEnds : List Char → List Char
  | '\r' :: '\n' :: rest => '\n' :: joinLineEnds rest
  | c :: rest => c :: joinLineEnds rest
  | [] => []

/-- Whether a character is a blank inside a line. -/
def isBlank (c : Char) : Bool := c = ' ' || c = '\t'

/-- Whether a character may stand in a comment: all but the controls. -/
def isCommentChar (c : Char) : Bool := c = '\t' || (0x20 ≤ c.toNat && c.toNat ≠ 0x7f)

/-- Whether a character may stand for itself between single quotes. -/
def isLiteralChar (c : Char) : Bool := isCommentChar c && c ≠ '\''

/-- Whether a character may stand for itself between double quotes. -/
def isBasicChar (c : Char) : Bool := isCommentChar c && c ≠ '\x22' && c ≠ '\\'

/-- Whether a character may stand in a name without quotes. -/
def isBareChar (c : Char) : Bool := c.isAlphanum || c = '_' || c = '-'

/-- A text behind the blanks at its front. -/
def dropBlanks (text : List Char) : List Char := text.dropWhile isBlank

/-- A text behind the comment at its front, if there is one. -/
def dropComment : List Char → List Char
  | '#' :: rest => rest.dropWhile isCommentChar
  | text => text

/-- What follows the line, if nothing but blanks and a comment is left of it. -/
def lineEnd? (text : List Char) : Option (List Char) :=
  match dropComment (dropBlanks text) with
  | [] => some []
  | '\n' :: rest => some rest
  | _ => none

/-- A text behind the blanks, comments and line ends at its front. The flag says whether reading
stands in a comment. -/
def dropGap (inComment : Bool) : List Char → List Char
  | [] => []
  | c :: rest =>
    if c = '\n' then dropGap false rest
    else if inComment then
      if isCommentChar c then dropGap true rest else c :: rest
    else if isBlank c then dropGap false rest
    else if c = '#' then dropGap true rest
    else c :: rest

/-- A text behind the blanks and line ends at its front. -/
def dropLines (text : List Char) : List Char := text.dropWhile fun c => isBlank c || c = '\n'

end PacketTunnel.Toml
