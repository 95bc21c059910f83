/-!
# Nesting

How deep the parts of a regular expression lie inside each other. Several parts side by side are one
level deeper than the deepest of them; a single part stands for itself.
-/

namespace PacketTunnel.Log.Expression

/-- The deepest nesting that an expression may have. -/
def depthLimit : Nat := 250

/-- Parts side by side, by how deep they are. -/
structure Row where
  /-- How many parts there are. -/
  count : Nat
  /-- The depth of the deepest part. -/
  deepest : Nat
  deriving DecidableEq, Repr

namespace Row

/-- No parts. -/
def empty : Row := ⟨0, 0⟩

/-- The depth of all parts together. -/
def depth (r : Row) : Nat := if r.count < 2 then r.deepest else r.deepest + 1

/-- Put a part of some depth behind the others. -/
def push (r : Row) (depth : Nat) : Row := ⟨r.count + 1, max r.deepest depth⟩

/-- Let a part reach a depth. -/
def raise (r : Row) (depth : Nat) : Row := ⟨r.count, max r.deepest depth⟩

end Row

end PacketTunnel.Log.Expression
