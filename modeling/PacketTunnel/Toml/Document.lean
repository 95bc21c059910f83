import PacketTunnel.Toml.Value

/-!
# TOML documents

A document is a row of statements, one a line: headers, which open a table or add a table to a list,
and assignments, which go into the table that was opened last. The tables are put together as the
statements come, and the table that is open is put back into its place when the next one opens. A
document is refused as a whole if a statement is malformed or gives a name a second meaning.
-/

namespace PacketTunnel.Toml

/-- A statement of a document. -/
inductive Statement where
  /-- Open a table. -/
  | table (path : Path)
  /-- Add a table to a list of tables, and open it. -/
  | element (path : Path)
  /-- Give a value to a path in the open table. -/
  | assignment (path : Path) (value : Node)
  deriving Repr

namespace Statement

/-- A header behind its opening bracket. -/
def header? : List Char → Option (Statement × List Char)
  | '[' :: rest => do
    let (path, rest) ← path? rest
    match rest with
    | ']' :: ']' :: rest => return (.element path, rest)
    | _ => none
  | text => do
    let (path, rest) ← path? text
    match rest with
    | ']' :: rest => return (.table path, rest)
    | _ => none

/-- The statement at the front, and what follows it in its line. -/
def read? : List Char → Option (Statement × List Char)
  | '[' :: rest => header? rest
  | text => do
    let ((path, value), rest) ← pair? (value? nestingLimit) text
    return (.assignment path value, rest)

/-- The statements of a text in at most `fuel` lines. -/
def readAll? : (fuel : Nat) → List Char → Option (List Statement)
  | 0, _ => none
  | fuel + 1, text =>
    match dropBlanks text with
    | [] => some []
    | '\n' :: rest => readAll? fuel rest
    | '#' :: rest => do readAll? fuel (← lineEnd? ('#' :: rest))
    | text => do
      let (statement, rest) ← read? text
      return statement :: (← readAll? fuel (← lineEnd? rest))

end Statement

/-- A document that is being put together. -/
structure Draft where
  /-- The tables that are in their places. -/
  root : Entries := []
  /-- Where the open table belongs, and whether it is an element of a list; none for the document
  itself. -/
  place : Option (Path × Bool) := none
  /-- The entries of the open table. -/
  current : Entries := []

namespace Draft

/-- Add a finished table to a list of tables. -/
def putElement (name : String) (element entries : Entries) : Option (Unit × Entries) :=
  match entries.find? name with
  | none => some ((), entries.add name (.tables [element]))
  | some (.tables elements) => some ((), entries.set name (.tables (elements ++ [element])))
  | some _ => none

/-- Put a finished table into its place. Only a table that was passed through may be there. -/
def putTable (name : String) (table entries : Entries) : Option (Unit × Entries) :=
  match entries.find? name with
  | none => some ((), entries.add name (.table .headed table))
  | some (.table form _) =>
    if form.implicit then some ((), entries.set name (.table .headed table)) else none
  | some _ => none

/-- The entries of the whole document once the open table is in its place. -/
def close (d : Draft) : Option Entries :=
  match d.place with
  | none => some d.current
  | some (path, isElement) => do
    let put := if isElement then putElement else putTable
    let ((), root) ← d.root.descend false (fun _ entries => put path.leaf d.current entries)
      path.parents .headed
    return root

/-- Take a table out in order to go on with it. Only one that was passed through may be there. -/
def takeTable (name : String) (entries : Entries) : Option (Entries × Entries) :=
  match entries.find? name with
  | none => some ([], entries)
  | some (.table form inner) => if form.isOpen then some (inner, entries.erase name) else none
  | some _ => none

/-- Make sure that a name stands for a list of tables. -/
def openList (name : String) (entries : Entries) : Option (Unit × Entries) :=
  match entries.find? name with
  | none => some ((), entries.add name (.tables []))
  | some (.tables _) => some ((), entries)
  | some _ => none

/-- Carry out a statement. -/
def run (d : Draft) : Statement → Option Draft
  | .table path => do
    let root ← d.close
    let (current, root) ← root.descend false (fun _ entries => takeTable path.leaf entries)
      path.parents .headed
    return ⟨root, some (path, false), current⟩
  | .element path => do
    let root ← d.close
    let ((), root) ← root.descend false (fun _ entries => openList path.leaf entries)
      path.parents .headed
    return ⟨root, some (path, true), []⟩
  | .assignment path value => do
    let current ← d.current.assign path value
    return ⟨d.root, d.place, current⟩

end Draft

/-- The entries of the document that statements make up. -/
def ofStatements? (statements : List Statement) : Option Entries := do
  (← statements.foldlM Draft.run {}).close

/-- A text without the mark of byte order that it may begin with. -/
def dropOrderMark : List Char → List Char
  | '\ufeff' :: rest => rest
  | text => text

/-- The statements of a text. Every line takes up a character, so the characters bound the lines. -/
def statements? (text : List Char) : Option (List Statement) :=
  let text := joinLineEnds (dropOrderMark text)
  Statement.readAll? (text.length + 1) text

/-- The entries of a document. -/
def read? (text : String) : Option Entries := do ofStatements? (← statements? text.toList)

end PacketTunnel.Toml
