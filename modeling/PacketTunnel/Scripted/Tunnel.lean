import PacketTunnel.Bridge.Loop
import PacketTunnel.Scripted.Engine
import PacketTunnel.Scripted.Network

/-!
# A bridge in scripted surroundings

A bridge with a scripted engine on a scripted network, a host that answers requests for packets when
told to, and a clock that moves when told to. After everything that happens the bridge works off all
that waits for it.

Waiting messages are worked off in rounds: a round takes the messages that wait when it begins, in
order, and what they lead to waits for the next. A start or packets from the host lead to output of
an engine, that leads to ends of writes, and those lead to nothing, so a few rounds are enough.
-/

namespace PacketTunnel.Scripted

open Net Session Bridge

/-- An entry of the log. -/
inductive TunnelEntry where
  /-- A call on an engine. -/
  | engine (number : Nat) (call : EngineCall)
  /-- A request for packets, counted from zero. -/
  | readHost (number : Nat)
  /-- A packet written to the host. -/
  | writeHost (packet : Packet) (family : Family)
  /-- A call on a session handle. -/
  | session (effect : Session.Effect WriteTag)

/-- What was seen since the last time anybody looked. -/
structure Seen where
  /-- The log. -/
  log : List TunnelEntry := []
  /-- The answers to starts. -/
  answers : List (Except Bridge.Error Unit) := []

/-- A bridge in its surroundings. -/
structure Tunnel where
  /-- What engines do. -/
  script : Script
  /-- The time on the clock. -/
  now : Nat
  /-- The bridge, unless it has ended. -/
  bridge : Option (Loop Nat Unit)
  /-- The network. -/
  network : Network WriteTag
  /-- The requests for packets, those not yet answered with their epoch. -/
  reads : List (Option Nat)
  /-- The epoch of every attempt to set up an engine. -/
  epochs : List Nat
  /-- Messages that wait. -/
  waiting : List Message
  /-- What was seen. -/
  seen : Seen

namespace Tunnel

/-- A bridge that nothing has happened to. -/
def fresh (script : Script) (period : Nat) : Tunnel :=
  ⟨script, 0, some (.fresh 0 period), .fresh, [], [], [], {}⟩

/-- Put an entry into the log. -/
def log (t : Tunnel) (entry : TunnelEntry) : Tunnel :=
  { t with seen := { t.seen with log := t.seen.log ++ [entry] } }

/-- Send the bridge a message; one that has ended does not get it. -/
def post (t : Tunnel) (m : Message) : Tunnel := { t with waiting := t.waiting ++ [m] }

/-- Let the surroundings do their part of an effect. -/
def perform (t : Tunnel) : Bridge.Effect → Tunnel
  | .engine number call =>
    let t := t.log (.engine number call)
    match call with
    | .init epoch _ => { t with epochs := t.epochs ++ [epoch] }
    | _ => t
  | .post command => t.post (.command command)
  | .readHost epoch =>
    let t := t.log (.readHost t.reads.length)
    { t with reads := t.reads ++ [some epoch] }
  | .writeHost packet family => t.log (.writeHost packet family)
  | .session effect =>
    let (network, ends) := t.network.perform effect
    let t := { t with network }.log (.session effect)
    ends.foldl (fun t (tag, result) => t.post (.command (.written tag result))) t
  | .started result => { t with seen := { t.seen with answers := t.seen.answers ++ [result] } }
  | .traffic _ => t
  | .sessions _ => t

/-- Let the bridge work on a message. -/
def work (t : Tunnel) (m : Message) : Tunnel :=
  match t.bridge with
  | none => t
  | some bridge =>
    let (effects, next) := bridge.work t.script.kind t.now m
    effects.foldl perform { t with bridge := next }

/-- Work off messages in rounds. -/
def workRounds : (rounds : Nat) → Tunnel → Tunnel
  | 0, t => t
  | rounds + 1, t => workRounds rounds (t.waiting.foldl work { t with waiting := [] })

/-- How many rounds are enough: a message, the output of an engine, the ends of writes. -/
def roundsEnough : Nat := 4

/-- Work off what waits. -/
def settle (t : Tunnel) : Tunnel := { workRounds roundsEnough t with waiting := [] }

/-- Whether a tick is due. -/
def isTickDue (t : Tunnel) : Bool :=
  (t.bridge.bind (·.timer)).any (·.isDue t.now)

/-- Serve ticks as long as they are due, at most `fuel` of them. -/
def serveTicks : (fuel : Nat) → Tunnel → Tunnel
  | 0, t => t
  | fuel + 1, t => if t.isTickDue then serveTicks fuel (t.post .tick).settle else t

/-- Move the clock and serve the ticks that are due. Every tick moves the timer on by at least a
nanosecond, so the time that passes bounds their number. -/
def advance (nanos : Nat) (t : Tunnel) : Tunnel :=
  serveTicks (min (nanos + 1) (Timer.tolerance + 2)) { t with now := t.now + nanos }

/-- Send the bridge a message and let it work. -/
def send (c : Command) (t : Tunnel) : Tunnel := (t.post (.command c)).settle

/-- Start the engine. -/
def start (config : Config) (t : Tunnel) : Tunnel := t.send (.start config)

/-- Stop the engine and start it again. -/
def update (config : Config) (t : Tunnel) : Tunnel :=
  ((t.post (.command .stop)).post (.command (.start config))).settle

/-- Stop the engine. -/
def stop (t : Tunnel) : Tunnel := t.send .stop

/-- Give up the bridge. -/
def drop (t : Tunnel) : Tunnel := t.send .shutdown

/-- Answer a request for packets: whether it was still open. -/
def deliver (read : Nat) (packets : List Packet) (t : Tunnel) : Tunnel × Bool :=
  match t.reads[read]? with
  | some (some epoch) =>
    (send (.hostPackets epoch packets) { t with reads := t.reads.set read none }, true)
  | _ => (t, false)

/-- Let a handle report something, if there is such a handle: whether anybody listens. -/
def emit? (handle : Nat) (event : Event) (t : Tunnel) : Option (Tunnel × Bool) :=
  (t.network.report? handle event).map fun n =>
    if t.bridge.isSome then ((t.post (.notification n)).settle, true) else (t, false)

/-- Let an engine put something out unasked, whether it runs or not. -/
def speak? (number : Nat) (actions : List Action) (t : Tunnel) : Option Tunnel :=
  t.epochs[number]?.map fun epoch =>
    (((act [] actions).1).foldl (fun t e => t.post (.command (.emitted epoch e))) t).settle

/-- Say what becomes of the next writes. -/
def writeMode (mode : WriteMode) (t : Tunnel) : Tunnel :=
  { t with network := { t.network with mode } }

/-- Finish a held write: whether there was one. -/
def finish (write : Nat) (result : WriteResult) (t : Tunnel) : Tunnel × Bool :=
  match t.network.finish? write with
  | none => (t, false)
  | some (tag, network) => (send (.written tag result) { t with network }, true)

/-- Forget what was seen. -/
def look (t : Tunnel) : Seen × Tunnel := (t.seen, { t with seen := {} })

/-- The answer to the last start; a bridge that has ended gives none. -/
def lastAnswer (s : Seen) : Except Bridge.Error Unit := s.answers.getLast?.getD (.error .closed)

end Tunnel

end PacketTunnel.Scripted
