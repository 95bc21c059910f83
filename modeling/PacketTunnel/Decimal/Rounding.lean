/-!
# Rounding a quotient

The nearest whole number to a quotient of natural numbers. A quotient half-way between two whole
numbers goes to the even one, or to the larger one.
-/

namespace PacketTunnel.Decimal

/-- The whole number nearest to `num / den`, a half going to the even neighbour. -/
def roundHalfEven (num den : Nat) : Nat :=
  let whole := num / den
  let twice := 2 * (num % den)
  if twice < den then whole
  else if den < twice then whole + 1
  else if whole % 2 = 0 then whole else whole + 1

/-- Where a quotient half-way between two whole numbers goes. -/
inductive Tie where
  /-- To the even one. -/
  | even
  /-- To the larger one. -/
  | up
  deriving DecidableEq, Repr

/-- The whole number nearest to `num / den`, a half going to the larger neighbour. -/
def roundHalfUp (num den : Nat) : Nat := (2 * num + den) / (2 * den)

/-- The whole number nearest to `num / den`. -/
def Tie.round : Tie → (num den : Nat) → Nat
  | even => roundHalfEven
  | up => roundHalfUp

end PacketTunnel.Decimal
