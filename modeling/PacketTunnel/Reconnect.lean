import PacketTunnel.Backoff

/-!
# Reconnecting after a loss

An episode begins with the first poll after the tunnel lost its connection. The first attempts are
made back to back, later ones wait for the strategy's backoff. When the time budget is spent or the
delays run out, every poll asks to throttle until the episode is reset.

A poll reads the clock once. The moments it computes may lie beyond every clock; the poll then
fails half-way, and what it had already written stays written.
-/

namespace PacketTunnel.Reconnect

/-- When to reconnect after a loss. -/
structure Strategy where
  /-- Attempts made back to back. -/
  immediate : UInt32
  /-- Delays between the attempts after those. -/
  delay : Backoff
  /-- The time budget, counted from the first poll of the episode. -/
  timeout : Span
  deriving DecidableEq, Repr

/-- What a poll asks the controller to do. -/
inductive Decision where
  /-- The next attempt is not due yet. -/
  | wait (until_ : Moment)
  /-- Reconnect now. -/
  | reconnect
  /-- Reconnect now, for the last time. -/
  | reconnectExhausted
  /-- Give up until the next reset. -/
  | throttle
  deriving DecidableEq, Repr

/-- The one way a poll can fail: a moment it needs lies beyond every clock. -/
inductive Overflow where
  /-- Adding a span to a moment left the range of the clock. -/
  | momentOutOfRange
  deriving DecidableEq, Repr

namespace Overflow

/-- The text of the failure. -/
def message : Overflow → String
  | momentOutOfRange => "overflow when adding duration to instant"

end Overflow

/-- A call made on behalf of the controller. -/
inductive Call where
  /-- A reconnection is under way. -/
  | reconnecting
  /-- No further reconnection is made. -/
  | throttling
  deriving DecidableEq, Repr

namespace Decision

/-- The calls that a decision asks for, in order. -/
def calls : Decision → List Call
  | wait _ => []
  | reconnect => [.reconnecting]
  | reconnectExhausted => [.reconnecting, .throttling]
  | throttle => [.throttling]

end Decision

/-- One loss of the connection, from its first poll to its reset. -/
structure Episode where
  /-- Attempts made so far. -/
  attempts : Nat
  /-- When the time budget is spent, known from the first poll on. -/
  deadline : Option Moment
  /-- When the next attempt is due. -/
  nextAttempt : Option Moment
  /-- The delays not yet used. -/
  delays : Delays
  /-- Whether the delays have run out. -/
  exhausted : Bool
  deriving DecidableEq, Repr

namespace Episode

/-- An episode without a poll. -/
def start (s : Strategy) : Episode where
  attempts := 0
  deadline := none
  nextAttempt := none
  delays := s.delay.delays
  exhausted := false

/-- Open the time budget on the first poll. -/
def openBudget (s : Strategy) (now : Moment) (e : Episode) : Option Episode :=
  if e.attempts = 0 ∧ e.deadline = none then
    (now.after? s.timeout).map fun deadline => { e with deadline := some deadline }
  else some e

/-- Make the next attempt due now while attempts are made back to back. -/
def dueAtOnce (s : Strategy) (now : Moment) (e : Episode) : Episode :=
  if e.attempts = 0 ∨ e.attempts < s.immediate.toNat then { e with nextAttempt := some now } else e

/-- Whether nothing but a reset helps. -/
def isOver (now : Moment) (e : Episode) : Bool :=
  e.exhausted || (match e.deadline with
    | none => true
    | some deadline => deadline.nanos < now.nanos)

/-- Count an attempt made now and plan the one after it. -/
def attempt (s : Strategy) (draw : Nat) (now : Moment) (e : Episode) :
    Episode × Except Overflow Decision :=
  let counted := { e with attempts := e.attempts + 1 }
  if counted.attempts < s.immediate.toNat then (counted, .ok .reconnect)
  else match counted.delays.next? draw with
    | none => ({ counted with exhausted := true, nextAttempt := none }, .ok .reconnectExhausted)
    | some (delay, rest) =>
      let waiting := { counted with delays := rest }
      match now.after? delay with
      | none => (waiting, .error .momentOutOfRange)
      | some due => ({ waiting with nextAttempt := some due }, .ok .reconnect)

/-- Decide as of now, under a draw for the next delay. -/
def poll (s : Strategy) (draw : Nat) (now : Moment) (e : Episode) :
    Episode × Except Overflow Decision :=
  match e.openBudget s now with
  | none => (e, .error .momentOutOfRange)
  | some opened =>
    let due := opened.dueAtOnce s now
    if due.isOver now then (due, .ok .throttle)
    else match due.nextAttempt with
      | none => (due, .ok .throttle)
      | some next =>
        if now.nanos < next.nanos then (due, .ok (.wait next)) else due.attempt s draw now

end Episode

end PacketTunnel.Reconnect
