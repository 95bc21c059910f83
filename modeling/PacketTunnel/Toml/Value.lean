import PacketTunnel.Toml.Datetime
import PacketTunnel.Toml.Name
import PacketTunnel.Toml.Number

/-!
# Values in TOML documents

A value is a scalar, a list in brackets or a table in braces. A list may go over several lines and
may have a comma behind its last item; a table in braces may not. Brackets and braces may be nested
to a limit.
-/

namespace PacketTunnel.Toml

/-- How deep brackets and braces may be nested. -/
def nestingLimit : Nat := 79

/-- What follows a word at the front. -/
def word? (word : List Char) (text : List Char) : Option (List Char) :=
  if text.take word.length = word then some (text.drop word.length) else none

/-- The truth value at the front, and what follows it. -/
def boolean? (text : List Char) : Option (Scalar × List Char) :=
  ((word? "true".toList text).map (.boolean true, ·)).or
    ((word? "false".toList text).map (.boolean false, ·))

/-- The scalar at the front, and what follows it. -/
def scalar? (text : List Char) : Option (Scalar × List Char) :=
  ((Quoted.read? text).map fun (chars, rest) => (.string (String.ofList chars), rest))
    |>.or (boolean? text)
    |>.or ((Datetime.read? text).map (.datetime, ·))
    |>.or (float? text)
    |>.or (integer? text)

/-- A reader of a value at the front of a text. -/
abbrev ValueReader := List Char → Option (Node × List Char)

/-- The items of a list up to its closing bracket, at most `fuel` of them, and what follows it. -/
def items? (item : ValueReader) : (fuel : Nat) → List Char → Option (List Node × List Char)
  | 0, _ => none
  | fuel + 1, text =>
    match dropGap false text with
    | ']' :: rest => some ([], rest)
    | text => do
      let (node, rest) ← item text
      match dropGap false rest with
      | ',' :: rest => do
        let (nodes, rest) ← items? item fuel rest
        return (node :: nodes, rest)
      | ']' :: rest => return ([node], rest)
      | _ => none

/-- A path, an equals sign and a value, and what follows. -/
def pair? (item : ValueReader) (text : List Char) : Option ((Path × Node) × List Char) := do
  let (path, rest) ← path? text
  match rest with
  | '=' :: rest => do
    let (node, rest) ← item (dropBlanks rest)
    return ((path, node), rest)
  | _ => none

/-- The entries of a table in braces up to its closing brace, at most `fuel` of them, behind the
entries that came before; and what follows the brace. -/
def inlineEntries? (item : ValueReader) :
    (fuel : Nat) → Entries → List Char → Option (Entries × List Char)
  | 0, _, _ => none
  | fuel + 1, entries, text => do
    let ((path, node), rest) ← pair? item text
    let entries ← entries.assign path node
    match dropBlanks rest with
    | ',' :: rest => inlineEntries? item fuel entries rest
    | '\x7d' :: rest => return (entries, rest)
    | _ => none

/-- The rest of a table in braces, and what follows it. -/
def inlineTable? (item : ValueReader) (text : List Char) : Option (Node × List Char) :=
  match dropBlanks text with
  | '\x7d' :: rest => some (.inline [], rest)
  | text => (inlineEntries? item text.length [] text).map fun (entries, rest) =>
      (.inline entries, rest)

/-- The value at the front, with at most `depth` brackets and braces inside each other, and what
follows it. -/
def value? : (depth : Nat) → ValueReader
  | 0, text => (scalar? text).map fun (scalar, rest) => (.scalar scalar, rest)
  | depth + 1, text =>
    match text with
    | '[' :: rest => (items? (value? depth) (rest.length + 1) rest).map fun (items, rest) =>
        (.array items, rest)
    | '\x7b' :: rest => inlineTable? (value? depth) rest
    | text => (scalar? text).map fun (scalar, rest) => (.scalar scalar, rest)

end PacketTunnel.Toml
