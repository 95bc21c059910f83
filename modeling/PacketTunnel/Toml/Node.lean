import PacketTunnel.Shape

/-!
# TOML documents as trees

A table is a list of entries in the order in which their names first came up. Every name stands for
one thing only, but a table may be given in pieces: its form says which pieces may still come.
Tables in braces are closed from the start.
-/

namespace PacketTunnel.Toml

open Shape

/-- A value without parts. -/
inductive Scalar where
  /-- A text. -/
  | string (value : String)
  /-- A whole number. -/
  | integer (value : Int)
  /-- A number in double precision, in its decimal form. -/
  | float (written : String)
  /-- A truth value. -/
  | boolean (value : Bool)
  /-- A date, a time or both; nothing here asks which. -/
  | datetime
  deriving DecidableEq, Repr

/-- How a table came about. -/
structure Form where
  /-- Whether it was only passed through on the way to another one. -/
  implicit : Bool
  /-- Whether it was passed through by a name in front of an equals sign. -/
  dotted : Bool
  deriving DecidableEq, Repr

namespace Form

/-- A table with a header of its own. -/
def headed : Form := ⟨false, false⟩

/-- A table that was passed through. -/
def passed (dotted : Bool) : Form := ⟨true, dotted⟩

/-- Whether a header may still take the table over. -/
def isOpen (f : Form) : Bool := f.implicit && !f.dotted

end Form

/-- A thing that a name stands for. -/
inductive Node where
  /-- A value without parts. -/
  | scalar (value : Scalar)
  /-- A list of values. -/
  | array (items : List Node)
  /-- A table in braces. -/
  | inline (entries : List (String × Node))
  /-- A table that may be given in pieces. -/
  | table (form : Form) (entries : List (String × Node))
  /-- A list of tables, each with a header of its own. -/
  | tables (elements : List (List (String × Node)))
  deriving Repr

/-- The entries of a table. -/
abbrev Entries := List (String × Node)

/-- A scalar as a thing found; a date counts as a map of its parts. -/
def Scalar.found : Scalar → Found
  | string value => .string value
  | integer value => .integer value
  | float written => .float written
  | boolean value => .boolean value
  | datetime => .map

/-- A node as a thing found. -/
def Node.found : Node → Found
  | scalar value => value.found
  | array _ | tables _ => .sequence
  | inline _ | table _ _ => .map

/-- A dotted name: the tables on the way, and the name in the last of them. -/
structure Path where
  /-- The tables on the way. -/
  parents : List String
  /-- The last name. -/
  leaf : String
  deriving DecidableEq, Repr

namespace Entries

/-- The node of a name. -/
def find? (entries : Entries) (name : String) : Option Node := entries.lookup name

/-- Put another node in the place of a name. -/
def set (entries : Entries) (name : String) (node : Node) : Entries :=
  entries.map fun entry => if entry.1 = name then (name, node) else entry

/-- Take a name out. -/
def erase (entries : Entries) (name : String) : Entries :=
  entries.filter fun entry => entry.1 ≠ name

/-- Add a name at the end. -/
def add (entries : Entries) (name : String) (node : Node) : Entries := entries ++ [(name, node)]

/-- Change the table that is reached over some names, and look something up in it. Missing tables on
the way come about; of a list of tables the last one is meant. A name in front of an equals sign
(`dotted`) must not go through tables that have a header. -/
def descend {α : Type} (dotted : Bool) (change : Form → Entries → Option (α × Entries)) :
    List String → Form → Entries → Option (α × Entries)
  | [], form, entries => change form entries
  | name :: names, _, entries =>
    match find? entries name with
    | none => do
      let (a, inner) ← descend dotted change names (.passed dotted) []
      return (a, add entries name (.table (.passed dotted) inner))
    | some (.table form inner) =>
      if dotted ∧ !form.implicit then none
      else do
        let (a, inner) ← descend dotted change names form inner
        return (a, set entries name (.table form inner))
    | some (.tables elements) =>
      match elements.getLast? with
      | none => none
      | some last => do
        let (a, last) ← descend dotted change names .headed last
        return (a, set entries name (.tables (elements.dropLast ++ [last])))
    | some _ => none

/-- Give a value to a path. The path must be new, and a table that has a header is not extended
through a dotted name, nor the other way round. -/
def assign (entries : Entries) (path : Path) (value : Node) : Option Entries := do
  let ((), entries) ← descend true put path.parents .headed entries
  return entries
where
  /-- Add the value to the table that holds its name. -/
  put (form : Form) (entries : Entries) : Option (Unit × Entries) :=
    if form.dotted = path.parents.isEmpty ∨ (find? entries path.leaf).isSome then none
    else some ((), add entries path.leaf value)

end Entries

end PacketTunnel.Toml
