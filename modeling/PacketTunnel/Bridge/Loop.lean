import PacketTunnel.Bridge.Actor
import PacketTunnel.Bridge.Timer

/-!
# The life of a bridge

A bridge works on messages until it is told to shut down or an engine breaks. Its timer runs exactly
while an engine does: it is created when a message leaves an engine running and there is no timer,
and given up when a message leaves none running. A timer without a period cannot be created, nor one
whose first tick lies beyond every clock, and the attempt ends the bridge.
-/

namespace PacketTunnel.Bridge

open Session

/-- Something that a bridge works on. -/
inductive Message where
  /-- A message. -/
  | command (command : Command)
  /-- Something that a session handle reported. -/
  | notification (notification : Notification)
  /-- A tick of the timer. -/
  | tick
  deriving Repr

/-- A bridge at work. -/
structure Loop (φ σ : Type) where
  /-- The bridge. -/
  actor : Actor φ σ
  /-- The timer. -/
  timer : Option Timer
  /-- The period of timers. -/
  period : Nat

namespace Loop

variable {φ σ : Type}

/-- A bridge that has not worked on anything. -/
def fresh (workshop : φ) (period : Nat) : Loop φ σ := ⟨.idle workshop, none, period⟩

/-- What is done when a bridge ends without a shutdown: an engine that runs is given up. -/
def dropEngine (a : Actor φ σ) : List Effect :=
  match a.engine with
  | none => []
  | some live => [.engine live.number .drop]

/-- The turn that a message leads to. -/
def turn (k : Kind φ σ) (l : Loop φ σ) : Message → Turn φ σ
  | .command c => l.actor.command k c
  | .notification n => l.actor.notification k n
  | .tick => l.actor.tick k

/-- The timer once a message has been taken: a tick is served. -/
def timerAfter (now : Nat) (l : Loop φ σ) : Message → Option Timer
  | .tick => l.timer.map (·.serve now)
  | _ => l.timer

/-- Whether a message ends the bridge. -/
def isLast : Message → Bool
  | .command .shutdown => true
  | _ => false

/-- Bring the timer in line with the engine. -/
def settle (now : Nat) (l : Loop φ σ) : List Effect × Option (Loop φ σ) :=
  match l.actor.isLive, l.timer with
  | false, _ => ([], some { l with timer := none })
  | true, some _ => ([], some l)
  | true, none =>
    if Timer.Possible l.period then ([], some { l with timer := some (.start now l.period) })
    else (dropEngine l.actor, none)

/-- Work on a message now: what is done, and the bridge afterwards unless it has ended. -/
def work (k : Kind φ σ) (now : Nat) (l : Loop φ σ) (m : Message) :
    List Effect × Option (Loop φ σ) :=
  let t := l.turn k m
  if t.broken then (t.effects ++ dropEngine t.actor, none)
  else if isLast m then (t.effects, none)
  else
    let (effects, next) := settle now { l with actor := t.actor, timer := l.timerAfter now m }
    (t.effects ++ effects, next)

end Loop

end PacketTunnel.Bridge
