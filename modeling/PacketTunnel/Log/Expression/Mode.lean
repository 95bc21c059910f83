import PacketTunnel.Text.Blank

/-!
# Ways to read an expression

Flags inside a regular expression say how what follows is read: over characters or over bytes, with
upper and lower case told apart or not, and with or without blanks and remarks in between.
-/

namespace PacketTunnel.Log.Expression

open Text

/-- How an expression is read. -/
structure Mode where
  /-- Characters are matched, and not bytes. -/
  unicode : Bool
  /-- Upper and lower case are the same. -/
  ignoreCase : Bool
  /-- Blanks and remarks are stepped over. -/
  verbose : Bool
  deriving DecidableEq, Repr

/-- A text without the blanks and remarks in front. A remark reaches from its mark to the end of the
line; `remark` is whether the text begins inside of one. -/
def stepOver : (remark : Bool) → List Char → List Char
  | _, [] => []
  | true, c :: rest => stepOver (c ≠ '\n') rest
  | false, c :: rest =>
    if isBlank c then stepOver false rest
    else if c = '#' then stepOver true rest
    else c :: rest

/-- The first character that is neither a blank nor the first mark of a remark, which `marked` says
has been seen. -/
def firstVisible : (marked : Bool) → List Char → Option Char
  | _, [] => none
  | marked, c :: rest =>
    if isBlank c then firstVisible marked rest
    else if c = '#' ∧ !marked then firstVisible true rest
    else some c

namespace Mode

/-- How an expression is read unless it says otherwise. -/
def default : Mode := ⟨true, false, false⟩

/-- Whether a table of letters in either case would be needed. -/
def needsCases (m : Mode) : Bool := m.unicode && m.ignoreCase

/-- Switch a flag on or off. The other flags change what an expression matches and not how it is
read. -/
def set (m : Mode) (flag : Char) (on : Bool) : Mode :=
  if flag = 'u' then { m with unicode := on }
  else if flag = 'i' then { m with ignoreCase := on }
  else if flag = 'x' then { m with verbose := on }
  else m

/-- The text from the next character on that counts. -/
def advance (m : Mode) (text : List Char) : List Char :=
  if m.verbose then stepOver false text else text

/-- The character that decides what a hyphen in front of the text means. -/
def ahead? (m : Mode) (text : List Char) : Option Char :=
  if m.verbose then (firstVisible false text).or text.head? else text.head?

end Mode

end PacketTunnel.Log.Expression
