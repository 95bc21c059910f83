import PacketTunnel.Decimal.Double
import PacketTunnel.Text.Numeral

/-!
# The shortest decimal of a double

The fewest decimal digits that read back as the same number and, of those, the ones nearest to it; a
tie goes as the writer says. Two layouts of the digits are given: positional throughout, and
positional near the point with an exponent farther out.
-/

namespace PacketTunnel.Decimal

open Text

/-- A decimal significand times a power of ten. -/
structure Shortest where
  /-- The digits as one number. -/
  digits : Nat
  /-- The power of ten. -/
  exponent : Int
  deriving DecidableEq, Repr

namespace Shortest

/-- Whether a decimal reads back as the number. -/
def readsBack (x : Double) (d : Shortest) : Bool :=
  match Double.ofDecimal? d.digits d.exponent with
  | some y => y.ratio.1 * x.ratio.2 = x.ratio.1 * y.ratio.2
  | none => false

/-- The neighbour of the number on the grid of multiples of a power of ten, if it reads back. Of
two neighbours that do, the nearer one is taken. -/
def onGrid? (tie : Tie) (x : Double) (exponent : Int) : Option Shortest :=
  let num := x.ratio.1 * Nat.pow 10 (-exponent).toNat
  let den := x.ratio.2 * Nat.pow 10 exponent.toNat
  let near := tie.round num den
  let below := num / den
  let candidates := [near, below, below + 1]
  (candidates.find? fun digits => readsBack x ⟨digits, exponent⟩).map (⟨·, exponent⟩)

/-- The place of the first decimal digit of a number: the power of ten it counts. -/
def firstPlace (x : Double) : Int :=
  let (num, den) := x.ratio
  let length : Int := (Numeral.decimal (num / den)).length
  if den ≤ num then length - 1
  else -((Numeral.decimal ((den + num - 1) / num)).length : Int)

/-- Try grids from `exponent` on, each ten times finer than the one before. -/
def search (tie : Tie) (x : Double) : (tries : Nat) → (exponent : Int) → Shortest
  | 0, exponent => ⟨tie.round (x.ratio.1 * Nat.pow 10 (-exponent).toNat)
      (x.ratio.2 * Nat.pow 10 exponent.toNat), exponent⟩
  | tries + 1, exponent =>
    match onGrid? tie x exponent with
    | some d => if d.digits = 0 then search tie x tries (exponent - 1) else d
    | none => search tie x tries (exponent - 1)

/-- Drop zeros at the end of the digits. -/
def trimZeros : (tries : Nat) → Shortest → Shortest
  | 0, d => d
  | tries + 1, d =>
    if d.digits ≠ 0 ∧ d.digits % 10 = 0 then trimZeros tries ⟨d.digits / 10, d.exponent + 1⟩ else d

/-- The shortest decimal of a number. -/
def ofDouble (tie : Tie) (x : Double) : Shortest :=
  if x.isZero then ⟨0, 0⟩ else trimZeros 20 (search tie x 20 (firstPlace x + 1))

/-- The digits. -/
def chars (d : Shortest) : List Char := Numeral.decimal d.digits

/-- The digits in front of the point, negative if zeros follow it. -/
def pointAt (d : Shortest) : Int := d.chars.length + d.exponent

/-- Digits with the point at its place and zeros where there are no digits. -/
def positional (d : Shortest) : List Char :=
  let digits := d.chars
  let point := d.pointAt
  if point ≤ 0 then '0' :: '.' :: List.replicate (-point).toNat '0' ++ digits
  else if point < digits.length then
    digits.take point.toNat ++ '.' :: digits.drop point.toNat
  else digits ++ List.replicate (point.toNat - digits.length) '0' ++ ['.', '0']

/-- A whole number behind its sign, which is always written. -/
def signed (n : Int) : List Char :=
  (if n < 0 then '-' else '+') :: Numeral.decimal n.natAbs

/-- Digits in front of an exponent. -/
def scientific (d : Shortest) : List Char :=
  match d.chars with
  | [] => []
  | [c] => c :: 'e' :: signed (d.pointAt - 1)
  | c :: rest => c :: '.' :: rest ++ 'e' :: signed (d.pointAt - 1)

/-- Positional from `0.00001` up to sixteen digits in front of the point, else with an exponent. -/
def compact (d : Shortest) : List Char :=
  if d.digits = 0 ∨ (-5 < d.pointAt ∧ d.pointAt ≤ 16) then d.positional else d.scientific

end Shortest

end PacketTunnel.Decimal
