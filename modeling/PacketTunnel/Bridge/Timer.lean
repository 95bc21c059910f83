import PacketTunnel.Span

/-!
# Periodic timers

A timer is due at the multiples of its period after the moment it was created. One that is served
too late skips the times that were missed and keeps to its grid. The first tick may be any time
ahead that a clock can show, but from then on no tick is further away than the longest period. Times
are nanoseconds on the clock.
-/

namespace PacketTunnel.Bridge

/-- A timer that runs. -/
structure Timer where
  /-- When it is due next. -/
  due : Nat
  /-- The time between two ticks. -/
  period : Nat
  deriving DecidableEq, Repr

namespace Timer

/-- The period unless another one is asked for: a quarter of a second. -/
def defaultPeriod : Nat := nanosPerSecond / 4

/-- How late a tick may be served without anything being skipped: five thousandths of a second. -/
def tolerance : Nat := nanosPerSecond / 200

/-- The longest time between two ticks: thirty years of 365 days. -/
def longestPeriod : Nat := 30 * 365 * 86400 * nanosPerSecond

/-- Whether timers can have a period: they must have one, and a clock must be able to show a moment
that far ahead. -/
def Possible (period : Nat) : Prop := 0 < period ∧ (Moment.ofNanos? period).isSome

instance (period : Nat) : Decidable (Possible period) := inferInstanceAs (Decidable (_ ∧ _))

/-- A timer created now. Only the first tick is a longer time away than the longest period. -/
def start (now period : Nat) : Timer := ⟨now + period, min period longestPeriod⟩

/-- Whether a tick is due. -/
def isDue (t : Timer) (now : Nat) : Bool := t.due ≤ now

/-- The timer after a tick served now. -/
def serve (t : Timer) (now : Nat) : Timer :=
  if t.due + tolerance < now then { t with due := now + t.period - (now - t.due) % t.period }
  else { t with due := t.due + t.period }

/-- Serving a tick leaves the period alone. -/
theorem period_serve (t : Timer) (now : Nat) : (t.serve now).period = t.period := by
  unfold serve
  split <;> rfl

end Timer

end PacketTunnel.Bridge
