import PacketTunnel.Route.Error
import PacketTunnel.Route.Resolution

/-!
# Resolvers

A resolver numbers its questions so that no two recent ones share a number: the numbers go up from
1 and start again at 1 behind the largest one, never passing 0. Where there is no routing socket a
question uses up its number and fails.
-/

namespace PacketTunnel.Route

open Net

/-- A source of question numbers. -/
structure Resolver where
  /-- The number used last, zero if there was none. -/
  last : Nat
  deriving DecidableEq, Repr

namespace Resolver

/-- The largest question number. -/
def maxSequence : Nat := 1 <<< 31 - 1

/-- A resolver without questions. -/
def fresh : Resolver := ⟨0⟩

/-- Take the next number. -/
def next (r : Resolver) : Nat × Resolver :=
  let n := if r.last = maxSequence then 1 else r.last + 1
  (n, ⟨n⟩)

/-- Take several numbers; the last of them is the one used last. -/
def skip (r : Resolver) : (count : Nat) → Resolver
  | 0 => r
  | count + 1 => skip r.next.2 count

/-- Ask for the route to a destination on a platform without a routing socket. -/
def resolve (r : Resolver) (_ : Address) : Except Error Resolution × Resolver :=
  (.error .unsupported, r.next.2)

end Resolver

end PacketTunnel.Route
