import PacketTunnel.Text.Quoted

/-!
# The shape of data

Data read from a text must have the shape of the type it is read as. A mismatch says what was found
and what was expected, in words that do not depend on the format of the text.
-/

namespace PacketTunnel.Shape

open Text

/-- What was found in the text. -/
inductive Found where
  /-- The null value. -/
  | null
  /-- A truth value. -/
  | boolean (value : Bool)
  /-- A whole number. -/
  | integer (value : Int)
  /-- A number with a fraction or an exponent, as the format writes it. -/
  | float (written : String)
  /-- A text. -/
  | string (value : String)
  /-- A list of values. -/
  | sequence
  /-- A table of values. -/
  | map
  /-- The name of a variant alone. -/
  | unitVariant
  deriving DecidableEq, Repr

/-- What was found, in words. -/
def Found.words : Found → String
  | null => "null"
  | boolean value => s!"boolean `{value}`"
  | integer value => s!"integer `{value}`"
  | float written => s!"floating point `{written}`"
  | string value => s!"string {Quoted.text value}"
  | sequence => "sequence"
  | map => "map"
  | unitVariant => "unit variant"

/-- Why data has not the shape that was expected. -/
inductive Mismatch where
  /-- A value of another kind. -/
  | invalidType (found : Found) (expected : String)
  /-- A list of another length. -/
  | invalidLength (found : Nat) (expected : String)
  /-- A variant that does not exist. -/
  | unknownVariant (name : String) (known : List String)
  /-- A field that is not there. -/
  | missingField (name : String)
  /-- A field that is there twice. -/
  | duplicateField (name : String)
  /-- A value of the right kind that its type refuses. -/
  | refused (reason : String)
  deriving DecidableEq, Repr

/-- Names of variants in words. -/
def namesInWords : List String → String
  | [] => "there are no variants"
  | [a] => s!"expected `{a}`"
  | [a, b] => s!"expected `{a}` or `{b}`"
  | names => "expected one of " ++ String.intercalate ", " (names.map fun n => s!"`{n}`")

/-- The text of a mismatch. -/
def Mismatch.message : Mismatch → String
  | invalidType found expected => s!"invalid type: {found.words}, expected {expected}"
  | invalidLength found expected => s!"invalid length {found}, expected {expected}"
  | unknownVariant name known => s!"unknown variant `{name}`, {namesInWords known}"
  | missingField name => s!"missing field `{name}`"
  | duplicateField name => s!"duplicate field `{name}`"
  | refused reason => reason

end PacketTunnel.Shape
