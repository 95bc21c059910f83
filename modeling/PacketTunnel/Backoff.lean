import PacketTunnel.Span

/-!
# Backoff

A backoff policy says how long to wait between attempts. Asking a policy for its delays starts a
fresh sequence; the sequence is a value, so a copy of it goes on from the same place. Random draws
are an argument: a draw picks one point of the window that jitter allows.
-/

namespace PacketTunnel

/-- Growth of a delay: every delay is the one before it times a factor, never above the cap. -/
structure Growth where
  /-- The delay to start from. -/
  initial : Span
  /-- What each delay is multiplied by. -/
  factor : UInt32
  /-- The longest delay ever given, if there is one. -/
  cap : Option Span
  deriving DecidableEq, Repr

/-- How long to wait between attempts. -/
inductive Backoff where
  /-- No attempt is ever repeated. -/
  | never
  /-- The same delay for ever. -/
  | constant (delay : Span)
  /-- Growing delays. -/
  | exponential (growth : Growth)
  /-- Growing delays, each drawn from the upper half of what it would have been. -/
  | jittered (growth : Growth)
  deriving DecidableEq, Repr

namespace Growth

/-- The delay given now, and the growth that goes on from it. -/
def step (g : Growth) : Span × Growth :=
  let now := g.initial.capped g.cap
  (now, { g with initial := (now.scale g.factor.toNat).capped g.cap })

end Growth

namespace Jitter

/-- The upper end of the window, in nanoseconds: a draw has 64 bits. -/
def top (bound : Span) : Nat := min bound.nanos (1 <<< 64 - 1)

/-- A delay lies in the window of a bound if it is between half the upper end and that end. -/
def Within (bound delay : Span) : Prop := top bound / 2 ≤ delay.nanos ∧ delay.nanos ≤ top bound

instance (bound delay : Span) : Decidable (Within bound delay) := by
  unfold Within
  infer_instance

/-- The delay that a draw picks from the window of a bound. -/
def pick (draw : Nat) (bound : Span) : Span :=
  let high := top bound
  let low := high / 2
  Span.clamp (low + draw % (high - low + 1))

end Jitter

/-- A sequence of delays, at the place it has reached. -/
inductive Delays where
  /-- The sequence without delays. -/
  | none
  /-- One delay for ever. -/
  | constant (delay : Span)
  /-- The rest of a growing sequence. -/
  | exponential (growth : Growth)
  /-- The rest of a growing sequence whose delays are drawn. -/
  | jittered (growth : Growth)
  deriving DecidableEq, Repr

namespace Delays

/-- The next delay before any draw, if the sequence has one. -/
def bound? : Delays → Option Span
  | none => Option.none
  | constant delay => some delay
  | exponential g => some g.step.1
  | jittered g => some g.step.1

/-- The sequence after its next delay. -/
def rest : Delays → Delays
  | none => none
  | constant delay => constant delay
  | exponential g => exponential g.step.2
  | jittered g => jittered g.step.2

/-- Whether delays are drawn. -/
def isDrawn : Delays → Bool
  | jittered _ => true
  | _ => false

/-- The next delay under a draw, with the rest of the sequence. -/
def next? (draw : Nat) (d : Delays) : Option (Span × Delays) :=
  d.bound?.map fun bound => (if d.isDrawn then Jitter.pick draw bound else bound, d.rest)

end Delays

namespace Backoff

/-- A fresh sequence of the policy's delays. -/
def delays : Backoff → Delays
  | never => .none
  | constant delay => .constant delay
  | exponential g => .exponential g
  | jittered g => .jittered g

/-- Whether the policy draws its delays. -/
def isDrawn (b : Backoff) : Bool := b.delays.isDrawn

/-- Drawn delays of up to 2, 4, 8, 8, … seconds. -/
def default : Backoff :=
  jittered { initial := Span.ofSeconds 2, factor := 2, cap := some (Span.ofSeconds 8) }

end Backoff

end PacketTunnel
