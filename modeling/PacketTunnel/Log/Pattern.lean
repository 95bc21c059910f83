import PacketTunnel.Log.Expression

/-!
# Patterns for values

A filter may ask for a field of a certain value. What it asks for is a number or a regular
expression, and a text that is neither is refused; no line here has fields with values, so nothing
is ever matched.
-/

namespace PacketTunnel.Log.Pattern

/-- The names of numbers without digits. -/
def numberNames : List String := ["inf", "infinity", "nan"]

/-- Whether a text is a number without a sign. -/
def isUnsigned (text : List Char) : Bool :=
  let whole := text.takeWhile Char.isDigit
  let rest := text.dropWhile Char.isDigit
  let (fraction, rest) := match rest with
    | '.' :: more => (more.takeWhile Char.isDigit, more.dropWhile Char.isDigit)
    | _ => ([], rest)
  let exponentEnds (digits : List Char) : Bool := !digits.isEmpty && digits.all Char.isDigit
  let ends := match rest with
    | [] => true
    | e :: more =>
      (e = 'e' || e = 'E') && match more with
        | '+' :: digits => exponentEnds digits
        | '-' :: digits => exponentEnds digits
        | digits => exponentEnds digits
  (!(whole ++ fraction).isEmpty && ends)
    || decide (String.ofList (text.map Char.toLower) ∈ numberNames)

/-- Whether a text can be compared with values. A number behind a plus sign is no expression. -/
def isPattern (text : List Char) : Bool :=
  Expression.isExpression text || match text with
    | '+' :: rest => isUnsigned rest
    | _ => false

end PacketTunnel.Log.Pattern
