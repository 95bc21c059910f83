import PacketTunnel.Log.Expression.Mode
import PacketTunnel.Text.Alphanumeric

/-!
# What a round bracket begins

A round bracket begins a group, which may have a name or flags of its own, or it only sets flags for
what follows. Nothing looks ahead or behind.
-/

namespace PacketTunnel.Log.Expression

open Text

/-- What a round bracket begins. -/
inductive Opening where
  /-- A group, perhaps with a name. -/
  | group (inside : Mode) (name : Option (List Char))
  /-- Nothing: it only changes how the rest is read. -/
  | flags (after : Mode)
  deriving DecidableEq, Repr

namespace Opening

/-- The flags. -/
def flagLetters : List Char := ['i', 'm', 's', 'U', 'u', 'R', 'x']

/-- Read the flags behind a question mark. `seen` are those so far, `on` is whether flags are
switched on, and `due` whether one must follow. -/
def flags? (m : Mode) (seen : List Char) (on due : Bool) :
    List Char → Option (Opening × List Char)
  | [] => none
  | c :: rest =>
    if c = ':' then if due then none else some (.group m none, rest)
    else if c = ')' then if due ∨ seen = [] then none else some (.flags m, rest)
    else if c ∈ seen then none
    else if c = '-' then flags? m (c :: seen) false true rest
    else if c ∈ flagLetters then flags? (m.set c on) (c :: seen) on false rest
    else none

/-- Whether a character may stand in the name of a group. -/
def isNameChar (c : Char) : Bool := c ∈ ['_', '.', '[', ']'] || isAlphanumeric c

/-- Whether a character may begin the name of a group. -/
def isNameStart (c : Char) : Bool := c = '_' || isAlphabetic c

/-- Read a group with a name, behind the angle bracket. -/
def named? (m : Mode) (text : List Char) : Option (Opening × List Char) :=
  let name := text.takeWhile (· ≠ '>')
  match text.dropWhile (· ≠ '>') with
  | [] => none
  | _ :: rest =>
    if name.head?.any isNameStart ∧ name.all isNameChar then some (.group m (some name), rest)
    else none

/-- Read what a round bracket begins, behind it. -/
def read? (m : Mode) (text : List Char) : Option (Opening × List Char) :=
  match m.advance text with
  | '?' :: 'P' :: '<' :: rest => named? m rest
  | '?' :: '<' :: rest => named? m rest
  | '?' :: rest => flags? m [] true false rest
  | rest => some (.group m none, rest)

end Opening

end PacketTunnel.Log.Expression
