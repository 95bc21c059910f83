import PacketTunnel.Decimal.Shortest
import PacketTunnel.Toml.Node

/-!
# Numbers in TOML documents

Whole numbers of 64 bits in four radixes, and numbers in double precision. Single underscores may
stand between digits. Only a decimal number has a sign, and it must not begin with a zero unless
that is all there is in front of the point.
-/

namespace PacketTunnel.Toml

open Text Decimal

/-- A sign at the front: whether it is a minus, and what follows it. -/
def dropSign : List Char → Bool × List Char
  | '+' :: rest => (false, rest)
  | '-' :: rest => (true, rest)
  | text => (false, text)

/-- The digits at the front with the underscores between them left out, and what follows. The flag
says whether a digit stands in front. -/
def digits (radix : Nat) (behindDigit : Bool) : List Char → List Char × List Char
  | [] => ([], [])
  | c :: rest =>
    if Numeral.isDigit radix c then
      let (more, rest) := digits radix true rest
      (c :: more, rest)
    else if c = '_' ∧ behindDigit ∧ rest.head?.any (Numeral.isDigit radix) then
      digits radix false rest
    else ([], c :: rest)

/-- At least one digit at the front, and what follows. -/
def digits? (radix : Nat) (text : List Char) : Option (List Char × List Char) :=
  let (run, rest) := digits radix false text
  if run.isEmpty then none else some (run, rest)

/-- The digits of a decimal number in front of its point, and what follows. -/
def leadingDigits? (text : List Char) : Option (List Char × List Char) :=
  match text with
  | '0' :: rest => some (['0'], rest)
  | _ => digits? 10 text

/-- The first number that 64 bits with a sign cannot hold. -/
def wholeBound : Nat := 1 <<< 63

/-- A whole number that 64 bits with a sign can hold. -/
def wholeNumber? (value : Int) : Option Scalar :=
  if -(wholeBound : Int) ≤ value ∧ value < wholeBound then some (.integer value) else none

/-- A number in another radix than ten, behind the letter that announces it. -/
def radixNumber? (radix : Nat) (text : List Char) : Option (Scalar × List Char) := do
  let (run, rest) ← digits? radix text
  let number ← wholeNumber? (Numeral.value radix run)
  return (number, rest)

/-- The whole number at the front, and what follows it. -/
def integer? (text : List Char) : Option (Scalar × List Char) :=
  match text with
  | '0' :: 'x' :: rest => radixNumber? 16 rest
  | '0' :: 'o' :: rest => radixNumber? 8 rest
  | '0' :: 'b' :: rest => radixNumber? 2 rest
  | _ => do
    let (negative, rest) := dropSign text
    let (run, rest) ← leadingDigits? rest
    let magnitude : Int := Numeral.value 10 run
    let number ← wholeNumber? (if negative then -magnitude else magnitude)
    return (number, rest)

/-- The exponent at the front, if there is one, and what follows it. -/
def exponent? (text : List Char) : Option (Int × List Char) :=
  match text with
  | [] => none
  | c :: rest =>
    if c = 'e' ∨ c = 'E' then do
      let (negative, rest) := dropSign rest
      let (run, rest) ← digits? 10 rest
      let magnitude : Int := Numeral.value 10 run
      return (if negative then -magnitude else magnitude, rest)
    else none

/-- The digits behind the point at the front, if there is one, and what follows them. -/
def fraction? (text : List Char) : Option (List Char × List Char) :=
  match text with
  | '.' :: rest => digits? 10 rest
  | _ => none

/-- The name of infinity. -/
def infinityName : String := "inf"

/-- A sign in front of the text of a number. -/
def signed (negative : Bool) (written : List Char) : String :=
  String.ofList (if negative then '-' :: written else written)

/-- A decimal number in double precision. One that is too large is refused, unless it is negative:
then it is minus infinity. -/
def ofDigits? (negative : Bool) (whole fraction : List Char) (exponent : Int) : Option Scalar :=
  match Double.ofDecimal? (Numeral.value 10 (whole ++ fraction)) (exponent - fraction.length) with
  | some x => some (.float (signed negative (Shortest.ofDouble .up x).positional))
  | none => if negative then some (.float (signed true infinityName.toList)) else none

/-- Infinity or no number at all, by name, and what follows it. -/
def special? (negative : Bool) (text : List Char) : Option (Scalar × List Char) :=
  match text with
  | 'i' :: 'n' :: 'f' :: rest => some (.float (signed negative infinityName.toList), rest)
  | 'n' :: 'a' :: 'n' :: rest => some (.float "NaN", rest)
  | _ => none

/-- The number with a fraction or an exponent at the front, and what follows it. -/
def float? (text : List Char) : Option (Scalar × List Char) :=
  let (negative, unsigned) := dropSign text
  match special? negative unsigned with
  | some found => some found
  | none => do
    let (whole, rest) ← leadingDigits? unsigned
    match fraction? rest with
    | some (fraction, rest) =>
      let (exponent, rest) := (exponent? rest).getD (0, rest)
      let number ← ofDigits? negative whole fraction exponent
      return (number, rest)
    | none => do
      let (exponent, rest) ← exponent? rest
      let number ← ofDigits? negative whole [] exponent
      return (number, rest)

end PacketTunnel.Toml
