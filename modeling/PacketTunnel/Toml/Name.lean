import PacketTunnel.Toml.Node
import PacketTunnel.Toml.Quoted

/-!
# Names in TOML documents

A name is a bare word or a quoted text of one line; several of them between dots lead from table to
table. Blanks may stand around each.
-/

namespace PacketTunnel.Toml

/-- The most names a path may have. -/
def Path.limit : Nat := 79

/-- A bare word, if there is one. -/
def bareName? (text : List Char) : Option (List Char × List Char) :=
  let name := text.takeWhile isBareChar
  if name.isEmpty then none else some (name, text.dropWhile isBareChar)

/-- The name at the front, and what follows it. -/
def name? (text : List Char) : Option (String × List Char) :=
  ((Quoted.line? text).or (bareName? text)).map fun (name, rest) => (String.ofList name, rest)

/-- The path at the front, of at most so many names, and what follows the blanks behind it. -/
def names? : (most : Nat) → List Char → Option (Path × List Char)
  | 0, _ => none
  | most + 1, text => do
    let (name, rest) ← name? (dropBlanks text)
    match dropBlanks rest with
    | '.' :: rest => do
      let (path, rest) ← names? most rest
      return (⟨name :: path.parents, path.leaf⟩, rest)
    | rest => return (⟨[], name⟩, rest)

/-- The path at the front, and what follows the blanks behind it. -/
def path? (text : List Char) : Option (Path × List Char) := names? Path.limit text

end PacketTunnel.Toml
