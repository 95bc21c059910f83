import PacketTunnel.Text.Hex
import PacketTunnel.Text.Utf8

/-!
# Universally unique identifiers

An identifier is sixteen bytes. It is written with hyphens in lower case. It is read with hyphens,
without them, with hyphens inside braces, or with hyphens behind `urn:uuid:`, digits and that name
in either case. Which of these a text is meant as is told by its size. A text that is refused is
blamed on its size if that is beyond all of them, else on the first character that cannot occur,
else on its size, the count of its groups or the first group of a wrong length.
-/

namespace PacketTunnel

open Text

/-- An identifier. -/
structure Uuid where
  /-- The bytes in the order they are written. -/
  bytes : Vector UInt8 16
  deriving DecidableEq, Repr

namespace Uuid

/-- Why a text is no identifier. -/
inductive ParseError where
  /-- A character that cannot occur, and its byte offset. -/
  | character (found : Char) (index : Nat)
  /-- Too many bytes, or digits alone, but not thirty-two of them. -/
  | length (found : Nat)
  /-- Not five groups. -/
  | groupCount (found : Nat)
  /-- A group of a wrong length. -/
  | groupLength (group expected found : Nat)
  deriving DecidableEq, Repr

/-- The text of the reason. -/
def ParseError.message : ParseError → String
  | character found index => s!"invalid character: found `{found}` at {index}"
  | length found => s!"invalid length: found {found}"
  | groupCount found => s!"invalid group count: expected 5, found {found}"
  | groupLength group expected found =>
    s!"invalid group length in group {group}: expected {expected}, found {found}"

/-- The identifier of the first sixteen bytes of a list, missing ones as zero. -/
def ofBytes (l : List UInt8) : Uuid := ⟨Vector.ofFn fun i => l.getD i.val 0⟩

/-- The lengths of the five groups. -/
def groupLengths : List Nat := [8, 4, 4, 4, 12]

/-- Cut a list into pieces of the given lengths. -/
def cut {α : Type} : List Nat → List α → List (List α)
  | [], _ => []
  | n :: lengths, l => l.take n :: cut lengths (l.drop n)

/-- The written form, as a list of characters. -/
def chars (x : Uuid) : List Char :=
  List.intercalate ['-'] (cut groupLengths (Hex.encode x.bytes.toList))

/-- The written form. -/
def text (x : Uuid) : String := String.ofList x.chars

/-- The ASCII lower case of a character. -/
def lower (c : Char) : Char := if 'A' ≤ c ∧ c ≤ 'Z' then Char.ofNat (c.toNat + 32) else c

/-- The name that may stand in front of an identifier. -/
def urn : List Char := "urn:uuid:".toList

/-- The bytes of digits with hyphens. -/
def hyphenatedSize : Nat := 36

/-- The bytes of digits with hyphens inside braces. -/
def bracedSize : Nat := hyphenatedSize + 2

/-- The bytes of digits with hyphens behind the name, the longest form. -/
def namedSize : Nat := hyphenatedSize + urn.length

/-- A text without what is around the digits. -/
structure Unwrapped where
  /-- What is left. -/
  body : List Char
  /-- What is added to places in the body. A text of the right size for what is around it is judged
  as what is left, so nothing is added there. -/
  offset : Nat
  /-- Whether the text may do without hyphens. -/
  plain : Bool

/-- Take away the braces or the name around a text. A text of the size of digits with hyphens has
nothing around it. -/
def unwrap (text : List Char) : Unwrapped :=
  if Utf8.size text = hyphenatedSize then ⟨text, 0, false⟩
  else if text.head? = some '\x7b' ∧ text.getLast? = some '\x7d' ∧ 2 ≤ text.length then
    ⟨text.tail.dropLast, if Utf8.size text = bracedSize then 0 else 1, false⟩
  else if (text.take urn.length).map lower = urn then
    ⟨text.drop urn.length, if Utf8.size text = namedSize then 0 else urn.length, false⟩
  else ⟨text, 0, true⟩

/-- The digits of five groups of the right lengths. -/
def joinGroups? (text : List Char) : Option (List Char) :=
  let groups := text.splitOn '-'
  if groups.map List.length = groupLengths then some groups.flatten else none

/-- The identifier of thirty-two digits. -/
def ofDigits? (digits : List Char) : Option Uuid :=
  if digits.length = 32 then (Hex.decode? digits).map ofBytes else none

/-- The first character that is neither a digit nor a hyphen, with its byte offset. -/
def stranger? : (index : Nat) → List Char → Option (Char × Nat)
  | _, [] => none
  | index, c :: rest =>
    if c = '-' ∨ Numeral.isDigit 16 c then stranger? (index + c.utf8Size) rest else some (c, index)

/-- Where the last group begins. -/
def lastGroupStart : Nat := 24

/-- The first group of a wrong length. The last group is taken to reach from its place to the end of
the whole text of `size` bytes. -/
def wrongGroup (size : Nat) (body : List Char) : ParseError :=
  let found := (body.splitOn '-').map List.length
  let rows := (List.range 4).zip (groupLengths.zip found)
  match rows.find? fun (_, expected, n) => expected ≠ n with
  | some (group, expected, n) => .groupLength group expected n
  | none => .groupLength 4 12 (size - lastGroupStart)

/-- The reason why a text is no identifier. -/
def blame (text : List Char) : ParseError :=
  let u := unwrap text
  let hyphens := u.body.count '-'
  if namedSize < Utf8.size text then .length (Utf8.size text)
  else match stranger? u.offset u.body with
    | some (c, index) => .character c index
    | none =>
      if hyphens = 0 ∧ u.plain then .length (Utf8.size text)
      else if hyphens ≠ 4 then .groupCount (hyphens + 1)
      else wrongGroup (Utf8.size text) u.body

/-- The identifier that a text stands for. -/
def parse (text : List Char) : Except ParseError Uuid :=
  let u := unwrap text
  let direct := if u.plain then ofDigits? text else none
  match direct.orElse fun _ => (joinGroups? u.body).bind ofDigits? with
  | some x => .ok x
  | none => .error (blame text)

end Uuid

end PacketTunnel
