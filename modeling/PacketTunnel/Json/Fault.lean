import PacketTunnel.Shape

/-!
# Faults of JSON texts

A fault has a cause and, once it is known, a place: the number of bytes in front of it. A place is
shown as a line and a column; lines count from one, and the column is the number of bytes since the
line began.
-/

namespace PacketTunnel.Json

/-- Why a JSON text is refused. -/
inductive Cause where
  /-- The text ends inside a list. -/
  | endInList
  /-- The text ends inside an object. -/
  | endInObject
  /-- The text ends inside a string. -/
  | endInString
  /-- The text ends where a value should be. -/
  | endInValue
  /-- No colon behind a key. -/
  | expectedColon
  /-- Neither comma nor bracket behind an element. -/
  | expectedListCommaOrEnd
  /-- Neither comma nor brace behind a member. -/
  | expectedObjectCommaOrEnd
  /-- A misspelt `null`, `true` or `false`. -/
  | expectedWord
  /-- Something that begins no value. -/
  | expectedValue
  /-- An escape that does not exist. -/
  | invalidEscape
  /-- A malformed number. -/
  | invalidNumber
  /-- A number beyond the largest one. -/
  | numberOutOfRange
  /-- Bytes in a string that are no character. -/
  | invalidCodePoint
  /-- A control character in a string. -/
  | controlCharacter
  /-- A key that is no string. -/
  | keyNotString
  /-- Half of a surrogate pair. -/
  | loneSurrogate
  /-- A comma in front of a closing bracket. -/
  | trailingComma
  /-- Something behind the end. -/
  | trailingCharacters
  /-- The second half of a surrogate pair is missing. -/
  | endOfHexEscape
  /-- The data has the wrong shape. -/
  | shape (mismatch : Shape.Mismatch)
  deriving DecidableEq, Repr

/-- The text of a cause. -/
def Cause.message : Cause → String
  | endInList => "EOF while parsing a list"
  | endInObject => "EOF while parsing an object"
  | endInString => "EOF while parsing a string"
  | endInValue => "EOF while parsing a value"
  | expectedColon => "expected `:`"
  | expectedListCommaOrEnd => "expected `,` or `]`"
  | expectedObjectCommaOrEnd => "expected `,` or `\x7d`"
  | expectedWord => "expected ident"
  | expectedValue => "expected value"
  | invalidEscape => "invalid escape"
  | invalidNumber => "invalid number"
  | numberOutOfRange => "number out of range"
  | invalidCodePoint => "invalid unicode code point"
  | controlCharacter => "control character (\\u0000-\\u001F) found while parsing a string"
  | keyNotString => "key must be a string"
  | loneSurrogate => "lone leading surrogate in hex escape"
  | trailingComma => "trailing comma"
  | trailingCharacters => "trailing characters"
  | endOfHexEscape => "unexpected end of hex escape"
  | shape mismatch => mismatch.message

/-- A cause with the number of bytes in front of it, as far as that is known. -/
structure Fault where
  /-- The cause. -/
  cause : Cause
  /-- The number of bytes in front of the fault. -/
  place : Option Nat
  deriving DecidableEq, Repr

namespace Fault

/-- A fault at a place. -/
def at_ (cause : Cause) (place : Nat) : Fault := ⟨cause, some place⟩

/-- Give a fault without a place one. -/
def placed (f : Fault) (place : Nat) : Fault := ⟨f.cause, some (f.place.getD place)⟩

end Fault

/-- A line and a column. -/
structure Position where
  /-- The line, from one. -/
  line : Nat
  /-- The bytes since the line began. -/
  column : Nat
  deriving DecidableEq, Repr

/-- The position behind some bytes. -/
def Position.after (p : Position) : List UInt8 → Position
  | [] => p
  | b :: rest => Position.after (if b = 10 then ⟨p.line + 1, 0⟩ else ⟨p.line, p.column + 1⟩) rest

/-- Why a whole text is refused, and where. -/
structure Error where
  /-- The cause. -/
  cause : Cause
  /-- The position, unless the fault has no place. -/
  position : Option Position
  deriving DecidableEq, Repr

namespace Error

/-- The error of a fault in a text. -/
def ofFault (text : List UInt8) (f : Fault) : Error :=
  ⟨f.cause, f.place.map fun place => Position.after ⟨1, 0⟩ (text.take place)⟩

/-- The text of an error. -/
def message (e : Error) : String :=
  match e.position with
  | none => e.cause.message
  | some p => s!"{e.cause.message} at line {p.line} column {p.column}"

end Error

end PacketTunnel.Json
