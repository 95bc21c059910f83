/-!
# The curve of the keys

Keys are points and scalars of the Montgomery curve `y² = x³ + 486662 x² + x` over the field of
`2 ^ 255 - 19` elements, of which only the `x` coordinate is kept. A point times a scalar is
computed by the ladder that goes over the scalar's bits from the highest to the lowest.
-/

namespace PacketTunnel.Key.Curve

/-- The size of the field. -/
def order : Nat := 1 <<< 255 - 19

/-- The number that bytes stand for, the lowest byte first. -/
def littleEndian : List UInt8 → Nat
  | [] => 0
  | b :: rest => b.toNat + 256 * littleEndian rest

/-- The lowest `width` bytes of a number, the lowest byte first. -/
def toBytes : (width : Nat) → Nat → List UInt8
  | 0, _ => []
  | width + 1, n => n.toUInt8 :: toBytes width (n / 256)

/-- Sum of field elements. -/
def add (x y : Nat) : Nat := (x + y) % order

/-- Difference of field elements. -/
def sub (x y : Nat) : Nat := (x + (order - y % order)) % order

/-- Product of field elements. -/
def mul (x y : Nat) : Nat := x * y % order


/-- A power of a field element, by the bits of the exponent. -/
def power (x : Nat) (exponent : Nat) : Nat :=
  if exponent = 0 then 1
  else
    let half := power (mul x x) (exponent / 2)
    if exponent % 2 = 1 then mul x half else half
termination_by exponent

/-- The inverse of a field element, zero for zero. -/
def inverse (x : Nat) : Nat := power x (order - 2)

/-- Two neighbouring multiples of a point, as fractions. -/
structure Ladder where
  /-- Numerator of the lower multiple. -/
  x2 : Nat
  /-- Denominator of the lower multiple. -/
  z2 : Nat
  /-- Numerator of the upper multiple. -/
  x3 : Nat
  /-- Denominator of the upper multiple. -/
  z3 : Nat

/-- Exchange the two multiples. -/
def Ladder.exchanged (l : Ladder) : Ladder := ⟨l.x3, l.z3, l.x2, l.z2⟩

/-- Double the lower multiple and add the two, for a point with coordinate `u`. -/
def Ladder.doubleAdd (u : Nat) (l : Ladder) : Ladder :=
  let a := add l.x2 l.z2
  let aa := mul a a
  let b := sub l.x2 l.z2
  let bb := mul b b
  let e := sub aa bb
  let da := mul (sub l.x3 l.z3) a
  let cb := mul (add l.x3 l.z3) b
  let sum := add da cb
  let difference := sub da cb
  { x2 := mul aa bb
    z2 := mul e (add aa (mul 121665 e))
    x3 := mul sum sum
    z3 := mul u (mul difference difference) }

/-- Go over the lowest `bits` bits of a scalar, the highest first. -/
def climb (scalar u : Nat) : (bits : Nat) → Ladder → Ladder
  | 0, l => l
  | bits + 1, l =>
    if scalar.testBit bits then climb scalar u bits (l.exchanged.doubleAdd u).exchanged
    else climb scalar u bits (l.doubleAdd u)

/-- A scalar times the point with coordinate `u`. -/
def multiple (scalar u : Nat) : Nat :=
  let l := climb scalar u 255 ⟨1, 0, u, 1⟩
  mul l.x2 (inverse l.z2)

/-- The coordinate of the base point. -/
def basePoint : Nat := 9

/-- The scalar of a private key: a multiple of eight between `2 ^ 254` and `2 ^ 255`. -/
def scalarOf (key : List UInt8) : Nat :=
  let n := littleEndian key % 1 <<< 254
  1 <<< 254 + (n - n % 8)

/-- The field element of a public key; the top bit of its bytes is ignored. -/
def elementOf (key : List UInt8) : Nat := littleEndian key % 1 <<< 255 % order

end PacketTunnel.Key.Curve
