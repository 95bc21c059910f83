/-!
# Numerals

Whole numbers written with ASCII digits in a radix of at most sixteen. A reader takes every digit
at the front of a text and refuses the number as a whole if it breaks one of the limits it is
read under; it never stops inside a run of digits.
-/

namespace PacketTunnel.Text.Numeral

/-- The value of an ASCII digit below the radix; letters count on from ten in either case. -/
def digit? (radix : Nat) (c : Char) : Option Nat :=
  let n := c.toNat
  let value :=
    if 48 ≤ n ∧ n ≤ 57 then n - 48
    else if 97 ≤ n ∧ n ≤ 102 then n - 87
    else if 65 ≤ n ∧ n ≤ 70 then n - 55
    else 16
  if value < radix then some value else none

/-- Whether a character is a digit below the radix. -/
def isDigit (radix : Nat) (c : Char) : Bool := (digit? radix c).isSome

/-- The number that a list of digits stands for. -/
def value (radix : Nat) (digits : List Char) : Nat :=
  digits.foldl (fun n c => n * radix + (digit? radix c).getD 0) 0

/-- What a number must keep to. -/
structure Limits where
  /-- The radix. -/
  radix : Nat
  /-- The most digits allowed, if there is such a limit. -/
  maxDigits : Option Nat
  /-- Whether a number of several digits may begin with a zero. -/
  leadingZeros : Bool
  /-- The first number that is too large. -/
  bound : Nat
  deriving Repr

/-- Whether a run of digits keeps to the limits. -/
def Limits.admits (l : Limits) (digits : List Char) : Bool :=
  !digits.isEmpty
    && (l.maxDigits.all fun most => digits.length ≤ most)
    && (l.leadingZeros || digits.length ≤ 1 || digits.head? != some '0')
    && value l.radix digits < l.bound

/-- The number at the front of a text, with what follows it. -/
def read? (l : Limits) (text : List Char) : Option (Nat × List Char) :=
  let digits := text.takeWhile (isDigit l.radix)
  if l.admits digits then some (value l.radix digits, text.dropWhile (isDigit l.radix)) else none

/-- A number in decimal digits, without leading zeros. -/
def decimal (n : Nat) : List Char := Nat.toDigits 10 n

/-- A number in lower-case hexadecimal digits, without leading zeros. -/
def hexadecimal (n : Nat) : List Char := Nat.toDigits 16 n

/-- Digits filled up with zeros on the left to a width. -/
def padded (width : Nat) (digits : List Char) : List Char :=
  List.replicate (width - digits.length) '0' ++ digits

end PacketTunnel.Text.Numeral
