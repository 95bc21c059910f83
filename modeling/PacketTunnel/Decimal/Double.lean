import PacketTunnel.Decimal.Rounding

/-!
# Double-precision numbers

Non-negative finite numbers of double precision as a significand times a power of two, and exact
rounding of a quotient to the nearest of them. Products and quotients of such numbers are rounded
once, so they are what a machine computes.
-/

namespace PacketTunnel.Decimal

/-- A non-negative finite number of double precision. -/
structure Double where
  /-- The significand, below `2 ^ 53`. -/
  significand : Nat
  /-- The power of two it is multiplied by. -/
  exponent : Int
  deriving DecidableEq, Repr

namespace Double

/-- Zero. -/
def zero : Double := ⟨0, 0⟩

/-- Whether the number is zero. -/
def isZero (x : Double) : Bool := x.significand = 0

/-- The number as a quotient of natural numbers. -/
def ratio (x : Double) : Nat × Nat :=
  (x.significand <<< x.exponent.toNat, 1 <<< (-x.exponent).toNat)

/-- The exponent at which `num / den` has 53 significant bits, or the least exponent there is. -/
def fittingExponent (num den : Nat) : Int :=
  let guess : Int := (Nat.log2 num : Int) - (Nat.log2 den : Int) - 52
  let scaled := num <<< (-guess).toNat / den <<< guess.toNat
  max (-1074) (if scaled < 1 <<< 52 then guess - 1 else guess)

/-- The number nearest to `num / den`, unless that is beyond the largest one. -/
def nearest? (num den : Nat) : Option Double :=
  if num = 0 then some zero
  else
    let e := fittingExponent num den
    let rounded := roundHalfEven (num <<< (-e).toNat) (den <<< e.toNat)
    let x : Double := if rounded = 1 <<< 53 then ⟨1 <<< 52, e + 1⟩ else ⟨rounded, e⟩
    if 971 < x.exponent then none else some x

/-- The product, unless it is beyond the largest number. -/
def mul? (x y : Double) : Option Double :=
  nearest? (x.ratio.1 * y.ratio.1) (x.ratio.2 * y.ratio.2)

/-- The quotient, unless it is beyond the largest number. -/
def div? (x y : Double) : Option Double :=
  nearest? (x.ratio.1 * y.ratio.2) (x.ratio.2 * y.ratio.1)

/-- The number nearest to a decimal significand times a power of ten. Far exponents are settled
without computing the power. -/
def ofDecimal? (significand : Nat) (exponent : Int) : Option Double :=
  let size : Int := Nat.log2 significand
  if significand = 0 then some zero
  else if 400 < exponent then none
  else if exponent < -(size + 400) then some zero
  else nearest? (significand * Nat.pow 10 exponent.toNat) (Nat.pow 10 (-exponent).toNat)

end Double

end PacketTunnel.Decimal
