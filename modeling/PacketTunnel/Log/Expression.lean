import PacketTunnel.Log.Expression.CharClass
import PacketTunnel.Log.Expression.Opening

/-!
# Regular expressions

Whether a text is a regular expression, read from left to right with a stack of open groups.
A filter stands inside braces, so no closing brace occurs in an expression, and whatever would need
one is refused. No expression is nested deeper than the limit.
-/

namespace PacketTunnel.Log.Expression

/-- A group that is still open, or the whole expression. -/
structure Group where
  /-- How the text is read. -/
  mode : Mode
  /-- The depth of the deepest branch in front of the last bar, if there is one. -/
  branches : Option Nat
  /-- The parts behind it. -/
  parts : Row
  /-- The depth of the last part, if it may be repeated. -/
  last : Option Nat
  deriving DecidableEq, Repr

namespace Group

/-- A group of which nothing has been read. -/
def begin (m : Mode) : Group := ⟨m, none, .empty, none⟩

/-- Add a part of some depth. -/
def push (g : Group) (depth : Nat) : Group :=
  { g with parts := g.parts.push depth, last := some depth }

/-- Add a part that only sets flags. -/
def setFlags (g : Group) (m : Mode) : Group :=
  { g with mode := m, parts := g.parts.push 0, last := none }

/-- Let the last part be repeated. -/
def repeat? (g : Group) : Option Group :=
  g.last.map fun depth => { g with parts := g.parts.raise (depth + 1), last := some (depth + 1) }

/-- Begin another branch. -/
def branch (g : Group) : Group :=
  { g with
    branches := some (max (g.branches.getD 0) g.parts.depth), parts := .empty, last := none }

/-- The depth of everything in the group. -/
def depth (g : Group) : Nat :=
  match g.branches with
  | none => g.parts.depth
  | some branches => max branches g.parts.depth + 1

end Group

/-- What has been read of an expression. -/
structure State where
  /-- The innermost group. -/
  inner : Group
  /-- The groups around it, from the inside out. -/
  outer : List Group
  /-- The names of the groups so far. -/
  names : List (List Char)
  deriving DecidableEq, Repr

namespace State

/-- Nothing yet. -/
def begin : State := ⟨.begin .default, [], []⟩

/-- Change the innermost group. -/
def modify (s : State) (f : Group → Group) : State := { s with inner := f s.inner }

/-- Begin a group, unless its name is taken. -/
def enter? (s : State) (inside : Mode) (name : Option (List Char)) : Option State :=
  if name.any (s.names.contains ·) then none
  else some ⟨.begin inside, s.inner :: s.outer, name.toList ++ s.names⟩

/-- End the innermost group. -/
def leave? (s : State) : Option State :=
  match s.outer with
  | [] => none
  | around :: outer => some { s with inner := around.push (s.inner.depth + 1), outer := outer }

/-- Whether the expression may end here. -/
def isComplete (s : State) : Bool := s.outer.isEmpty && s.inner.depth ≤ depthLimit

/-- Read the next piece. -/
def step? (s : State) : List Char → Option (State × List Char)
  | [] => none
  | '(' :: rest => do
    let (opening, rest) ← Opening.read? s.inner.mode rest
    match opening with
    | .flags after => return (s.modify (·.setFlags after), rest)
    | .group inside name => return (← s.enter? inside name, rest)
  | ')' :: rest => s.leave?.map fun s => (s, rest)
  | '|' :: rest => some (s.modify Group.branch, rest)
  | '[' :: rest => do
    let (depth, rest) ← charClass? s.inner.mode rest
    return (s.modify (·.push depth), rest)
  | '\x7b' :: _ => none
  | c :: rest =>
    if c ∈ ['*', '+', '?'] then do
      let inner ← s.inner.repeat?
      return ({ s with inner := inner }, if rest.head? = some '?' then rest.tail else rest)
    else do
      let (p, rest) ← Primitive.read? s.inner.mode (c :: rest)
      if p.allowed s.inner.mode then some (s.modify (·.push 0), rest) else none

/-- Whether the rest of an expression is in order, read in at most `fuel` steps. -/
def accepts : (fuel : Nat) → State → List Char → Bool
  | 0, _, _ => false
  | fuel + 1, s, text =>
    match s.inner.mode.advance text with
    | [] => s.isComplete
    | rest => (s.step? rest).any fun (s, rest) => accepts fuel s rest

end State

/-- Whether a text is a regular expression. -/
def isExpression (text : List Char) : Bool := State.begin.accepts (text.length + 1) text

end PacketTunnel.Log.Expression
