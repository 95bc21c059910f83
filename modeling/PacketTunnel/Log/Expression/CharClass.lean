import PacketTunnel.Log.Expression.Primitive
import PacketTunnel.Log.Expression.Row

/-!
# Classes of characters

A class in square brackets has characters, ranges, classes by name and classes in brackets as
members. Between groups of members there may be operators, which take everything on their left as
one side. Where letters in either case would be needed a class may have no members but empty
brackets; where bytes are matched every member is an ASCII character and nothing is negated, so that
only characters are matched.
-/

namespace PacketTunnel.Log.Expression

open Text

/-- What has been read of a class. -/
structure Members where
  /-- The depth of what is in front of the last operator, if there is one. -/
  left : Option Nat
  /-- The members behind it. -/
  right : Row
  deriving DecidableEq, Repr

namespace Members

/-- Nothing yet. -/
def empty : Members := ⟨none, .empty⟩

/-- Add a member of some depth. -/
def push (s : Members) (depth : Nat) : Members := { s with right := s.right.push depth }

/-- The depth of everything inside the brackets. -/
def depth (s : Members) : Nat :=
  match s.left with
  | none => s.right.depth
  | some left => max left s.right.depth + 1

/-- Put an operator behind the members. -/
def operate (s : Members) : Members := ⟨some s.depth, .empty⟩

end Members

/-- Read a primitive inside a class. -/
def classPrimitive? (m : Mode) : List Char → Option (Primitive × List Char)
  | [] => none
  | '\\' :: rest => Primitive.escaped? m rest
  | c :: rest => some (.literal c, rest)

/-- The number of the character that a primitive is. -/
def Primitive.number? : Primitive → Option Nat
  | literal c => some c.toNat
  | byte n => some n
  | _ => none

/-- Whether the character of some number may be a member. -/
def isMember (m : Mode) (n : Nat) : Bool := !m.needsCases && (m.unicode || n < 128)

/-- Whether a primitive may be a member on its own. -/
def Primitive.isMember (m : Mode) : Primitive → Bool
  | charClass negated => !m.unicode && !negated
  | p => p.number?.any (Expression.isMember m)

/-- Read a member that is not in brackets, or a range. A hyphen in front of a closing bracket or
another hyphen begins no range. -/
def member? (m : Mode) (text : List Char) : Option (List Char) := do
  let (first, rest) ← classPrimitive? m text
  match m.advance rest with
  | '-' :: more =>
    if m.ahead? more = some ']' ∨ m.ahead? more = some '-' then
      if first.isMember m then some ('-' :: more) else none
    else
      let (last, rest) ← classPrimitive? m (m.advance more)
      let low ← first.number?
      let high ← last.number?
      if low ≤ high ∧ isMember m low ∧ isMember m high then some rest else none
  | rest => if first.isMember m then some rest else none

/-- The names of classes of ASCII characters. -/
def classNames : List String :=
  ["alnum", "alpha", "ascii", "blank", "cntrl", "digit", "graph", "lower", "print", "punct",
    "space", "upper", "word", "xdigit"]

/-- Read a class by name behind its bracket, and whether it is negated. -/
def namedClass? : List Char → Option (Bool × List Char)
  | ':' :: text =>
    let negated := text.head? = some '^'
    let text := if negated then text.tail else text
    match text.dropWhile (· ≠ ':') with
    | ':' :: ']' :: rest =>
      if String.ofList (text.takeWhile (· ≠ ':')) ∈ classNames then some (negated, rest) else none
    | _ => none
  | _ => none

/-- Read the hyphens at the front of a class as members. -/
def hyphens (m : Mode) : (fuel : Nat) → Members → List Char → Members × List Char
  | 0, s, text => (s, text)
  | fuel + 1, s, text =>
    match m.advance text with
    | '-' :: rest => hyphens m fuel (s.push 0) rest
    | rest => (s, rest)

/-- Read the beginning of a class behind its bracket. A closing bracket at the very front is a
member. -/
def openClass? (m : Mode) (text : List Char) : Option (Members × List Char) :=
  let text := m.advance text
  let negated := text.head? = some '^'
  let (s, rest) := hyphens m text.length .empty (if negated then text.tail else text)
  let (s, rest) := if s = .empty ∧ rest.head? = some ']' then (s.push 0, rest.tail) else (s, rest)
  if (negated ∧ !m.unicode) ∨ (s ≠ .empty ∧ m.needsCases) then none else some (s, rest)

/-- Read the rest of a class in at most `fuel` steps, and how deep everything in it lies. -/
def classRest? (m : Mode) : (fuel : Nat) → Members → List Char → Option (Nat × List Char)
  | 0, _, _ => none
  | fuel + 1, s, text =>
    match m.advance text with
    | [] => none
    | ']' :: rest => some (s.depth, rest)
    | '[' :: rest =>
      match namedClass? rest with
      | some (negated, rest) =>
        if m.needsCases ∨ (negated ∧ !m.unicode) then none else classRest? m fuel (s.push 0) rest
      | none => do
        let (inner, rest) ← openClass? m rest
        let (depth, rest) ← classRest? m fuel inner rest
        classRest? m fuel (s.push (depth + 1)) rest
    | c :: rest =>
      if rest.head? = some c ∧ c ∈ ['&', '-', '~'] then classRest? m fuel s.operate rest.tail
      else do
        let rest ← member? m (c :: rest)
        classRest? m fuel (s.push 0) rest

/-- Read a class behind its bracket, and how deep it is. -/
def charClass? (m : Mode) (text : List Char) : Option (Nat × List Char) := do
  let (s, rest) ← openClass? m text
  let (depth, rest) ← classRest? m (text.length + 1) s rest
  return (depth + 1, rest)

end PacketTunnel.Log.Expression
