import PacketTunnel.Json.Reader

/-!
# Variants in JSON

One of several named alternatives. An alternative without contents is written as its name alone or
as an object that gives the name null; one with contents is written as an object with the name as
its only key.
-/

namespace PacketTunnel.Json

open Shape

/-- What an alternative carries. -/
inductive Contents (α : Type) where
  /-- Nothing. -/
  | nothing (a : α)
  /-- A text. -/
  | text (make : String → α)

namespace Contents

variable {α : Type}

/-- The value of a name that stands alone. -/
def alone : Contents α → Reader α
  | nothing a => return a
  | text _ => Reader.failShape (.invalidType .unitVariant "newtype variant")

/-- The value of a name with contents behind it. -/
def given : Contents α → Reader α
  | nothing a => do
    Reader.unit
    return a
  | text make => return make (← Reader.string "a string" .ok)

end Contents

/-- The alternatives by name. -/
abbrev Variants (α : Type) := List (String × Contents α)

namespace Variants

variable {α : Type}

/-- The name of an alternative. -/
def name (v : Variants α) : Reader (Contents α) :=
  Reader.string "variant identifier" fun name =>
    match v.find? (·.1 = name) with
    | some (_, contents) => .ok contents
    | none => .error (.unknownVariant name (v.map (·.1)))

/-- The rest of an object behind its only member. -/
def objectRest (a : α) : Reader α := do
  match ← Reader.peek with
  | none => Reader.failHere .endInObject
  | some b =>
    if b = 0x7d then do
      Reader.advance
      return a
    else Reader.failHere .expectedValue

/-- One of the alternatives. An object that ends where its name is due lacks a value. -/
def read (v : Variants α) : Reader α := do
  let b ← Reader.peekValue
  if b = 0x7b then do
    Reader.advance
    if ← Reader.hasKey true then do
      let contents ← v.name
      Reader.colon
      objectRest (← contents.given)
    else Reader.failPeek .expectedValue
  else if b = 0x22 then do
    let contents ← v.name
    contents.alone
  else Reader.failPeek .expectedValue

end Variants

end PacketTunnel.Json
