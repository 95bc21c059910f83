import PacketTunnel.Ipc.System
import PacketTunnel.Scripted.Host

/-!
# Clients and their server, worked off

After everything that happens, all clients and the server take steps in turn until nothing is left
to do. Every push gets a number as its name.
-/

namespace PacketTunnel.Scripted

open Ipc

/-- Clients and their server, with numbers to draw. -/
structure Pair where
  /-- The system. -/
  system : System Nat
  /-- How many identifiers were drawn. -/
  drawn : Nat
  /-- How many pushes were named. -/
  named : Nat

namespace Pair

/-- Stopped clients with windows of the given sizes. -/
def fresh (windows : List Nat) : Pair := ⟨.fresh windows, 0, 0⟩

/-- Take a step. -/
def step (p : Pair) (s : SystemStep Nat) : Pair × List (SystemOutput Nat) :=
  let (system, output) := p.system.step s
  ({ p with system }, output)

/-- Draw an identifier. -/
def draw (p : Pair) : Pair × Uuid := ({ p with drawn := p.drawn + 1 }, Host.idOf p.drawn)

/-- Let the clients from `first` on take one step of each queue. -/
def clientSteps (p : Pair) (first : Nat) : (count : Nat) → Pair × List (SystemOutput Nat)
  | 0 => (p, [])
  | count + 1 =>
    let (p, replies) := p.step (.reply first)
    let (p, id) := p.draw
    let (p, tasks) := p.step (.task first id)
    let (p, more) := clientSteps p (first + 1) count
    (p, replies ++ tasks ++ more)

/-- Let everybody take one step. -/
def round (p : Pair) : Pair × List (SystemOutput Nat) :=
  let (p, id) := p.draw
  let (p, served) := p.step (.serve id)
  let (p, more) := p.clientSteps 0 p.system.links.length
  (p, served ++ more)

/-- Take rounds until the system is quiet, at most `fuel` of them. -/
def drain : (fuel : Nat) → Pair → Pair × List (SystemOutput Nat)
  | 0, p => (p, [])
  | fuel + 1, p =>
    if p.system.isQuiet then (p, [])
    else
      let (p, output) := p.round
      let (p, more) := drain fuel p
      (p, output ++ more)

/-- How much waits. -/
def pending (s : System Nat) : Nat :=
  let ofLink (l : Link) : Nat :=
    l.client.tasks.length + l.client.replies.length + l.client.refill.elim 0 (· + 1)
  (s.links.map ofLink).foldl (· + ·) s.server.channel.length

/-- A bound on how many rounds are left: everything that waits leads to two refills at most. -/
def bound (s : System Nat) : Nat :=
  (pending s + 1) * (4 * (s.links.map (·.client.window)).foldl max 0 + 24)

/-- Work off what waits. -/
def settle (p : Pair) : Pair × List (SystemOutput Nat) := p.drain (bound p.system)

/-- Let something happen and work off what it leads to. -/
def happen (p : Pair) (s : SystemStep Nat) : Pair × List (SystemOutput Nat) :=
  let (p, output) := p.step s
  let (p, more) := p.settle
  (p, output ++ more)

/-- The end of the push of a number among outputs. -/
def pushResult? (name : Nat) : List (SystemOutput Nat) → Option (Except Error Unit)
  | [] => none
  | .pushed n result :: rest => if n = name then some result else pushResult? name rest
  | _ :: rest => pushResult? name rest

/-- Push an event and wait for the end of the push. -/
def push (p : Pair) (endpoint : String) : Pair × Except Error Unit × List (SystemOutput Nat) :=
  let name := p.named
  let (p, output) := happen { p with named := name + 1 } (.push name endpoint)
  (p, (pushResult? name output).getD (.error .queueClosed), output)

end Pair

end PacketTunnel.Scripted
