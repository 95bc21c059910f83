/-!
# Spans and moments

A span is a length of time in whole nanoseconds, a moment is a reading of a clock in nanoseconds
since the clock's zero. Both are bounded: spans by what 64 bits of seconds can hold, moments by
what 63 bits of seconds can hold. Scaling a span saturates at the bound. Moving a moment past its
bound is refused, and the caller decides what a refusal means.
-/

namespace PacketTunnel

/-- Nanoseconds in one second. -/
def nanosPerSecond : Nat := 1000000000

/-- A length of time, at most `2 ^ 64 - 1` seconds and 999999999 nanoseconds. -/
structure Span where
  /-- The whole length in nanoseconds. -/
  nanos : Nat
  /-- The length stays within 64 bits of seconds. -/
  nanos_lt : nanos < 1 <<< 64 * nanosPerSecond
  deriving DecidableEq, Repr

namespace Span

/-- The longest span, in nanoseconds. -/
def limit : Nat := 1 <<< 64 * nanosPerSecond - 1

theorem limit_lt : limit < 1 <<< 64 * nanosPerSecond := by decide

/-- The span of the given nanoseconds, or the longest span if there are too many. -/
def clamp (nanos : Nat) : Span :=
  ⟨min nanos limit, Nat.lt_of_le_of_lt (Nat.min_le_right ..) limit_lt⟩

/-- The span of whole seconds and nanoseconds. -/
def ofParts (seconds nanos : Nat) : Span := clamp (seconds * nanosPerSecond + nanos)

/-- The span of whole seconds. -/
def ofSeconds (seconds : Nat) : Span := ofParts seconds 0

/-- The whole seconds of a span. -/
def seconds (s : Span) : Nat := s.nanos / nanosPerSecond

/-- The nanoseconds of a span beyond its whole seconds. -/
def subsecond (s : Span) : Nat := s.nanos % nanosPerSecond

/-- The empty span. -/
def zero : Span := ⟨0, by decide⟩

/-- A span repeated `factor` times, held at the longest span. -/
def scale (s : Span) (factor : Nat) : Span := clamp (s.nanos * factor)

/-- The shorter of a span and an optional cap. -/
def capped (s : Span) : Option Span → Span
  | none => s
  | some cap => if s.nanos ≤ cap.nanos then s else cap

theorem nanos_le_limit (s : Span) : s.nanos ≤ limit := Nat.le_pred_of_lt s.nanos_lt

@[simp] theorem nanos_clamp (n : Nat) : (clamp n).nanos = min n limit := rfl

/-- A span is fixed by its nanoseconds. -/
@[ext] theorem ext {s t : Span} (h : s.nanos = t.nanos) : s = t := by
  cases s
  cases t
  simp_all

end Span

/-- A reading of a clock, within 63 bits of seconds. -/
structure Moment where
  /-- Nanoseconds since the clock's zero. -/
  nanos : Nat
  /-- The reading stays within 63 bits of seconds. -/
  nanos_lt : nanos < 1 <<< 63 * nanosPerSecond
  deriving DecidableEq, Repr

namespace Moment

/-- The moment that lies `nanos` after the clock's zero, if a clock can show it. -/
def ofNanos? (nanos : Nat) : Option Moment :=
  if h : nanos < 1 <<< 63 * nanosPerSecond then some ⟨nanos, h⟩ else none

/-- The clock's zero. -/
def zero : Moment := ⟨0, by decide⟩

/-- The moment a span later, refused when no clock can show it. -/
def after? (m : Moment) (s : Span) : Option Moment := ofNanos? (m.nanos + s.nanos)

/-- The span since the clock's zero. -/
def sinceZero (m : Moment) : Span := Span.clamp m.nanos

theorem ofNanos?_eq_some {n : Nat} {m : Moment} : ofNanos? n = some m ↔ n = m.nanos := by
  unfold ofNanos?
  split
  · constructor
    · intro h
      cases h
      rfl
    · rintro rfl
      rfl
  · rename_i h
    constructor
    · intro hn
      cases hn
    · rintro rfl
      exact absurd m.nanos_lt h

/-- A later moment lies exactly the span after the earlier one. -/
theorem after?_eq_some {m n : Moment} {s : Span} :
    m.after? s = some n ↔ m.nanos + s.nanos = n.nanos := ofNanos?_eq_some

end Moment

end PacketTunnel
