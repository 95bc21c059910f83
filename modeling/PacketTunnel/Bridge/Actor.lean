import PacketTunnel.Bridge.Engine
import PacketTunnel.Bridge.Error
import PacketTunnel.Session.Table
import PacketTunnel.Traffic

/-!
# Bridge

The bridge owns the engine, the session table and the traffic counters. Everything that concerns
them reaches it as a message, and it works on one message at a time. What it does about a message is
a list of effects, in order; nothing else of the surroundings is seen here.

Every attempt to set up an engine opens an epoch, and so does every shutdown. Output of an engine,
packets read for it and completions of its writes carry the epoch of the engine, and are dropped
unless that epoch is still the current one.

An engine that breaks takes the bridge with it: the engine is dropped, and no message is worked on
any more.
-/

namespace PacketTunnel.Bridge

open Session

/-- What tells the completions of writes apart. -/
structure WriteTag where
  /-- The epoch in which the datagram was sent. -/
  epoch : Nat
  /-- The length of the datagram. -/
  length : Nat
  deriving DecidableEq, Repr

/-- A message to the bridge. -/
inductive Command where
  /-- Start an engine in the place of the one that runs. -/
  | start (config : Config)
  /-- Stop the engine. -/
  | stop
  /-- Ask for the counters. -/
  | traffic
  /-- Ask for the sessions. -/
  | sessions
  /-- Packets that were read from the host. -/
  | hostPackets (epoch : Nat) (packets : List Packet)
  /-- Something that an engine put out. -/
  | emitted (epoch : Nat) (emission : Emission)
  /-- The end of a write. -/
  | written (tag : WriteTag) (result : WriteResult)
  /-- Stop the engine and take no further messages. -/
  | shutdown
  deriving Repr

/-- A call on an engine. -/
inductive EngineCall where
  /-- An engine was to be set up in an epoch. -/
  | init (epoch : Nat) (params : EngineParams)
  /-- A packet from the host was handed over. -/
  | host (packet : Packet)
  /-- A datagram from the network was handed over. -/
  | tunnel (datagram : Packet)
  /-- Time has passed. -/
  | tick
  /-- The engine is no longer needed. -/
  | shutdown
  /-- The engine was given up. -/
  | drop
  deriving DecidableEq, Repr

/-- What the bridge does to its surroundings. -/
inductive Effect where
  /-- Call on the engine of a number; attempts to set one up count from zero. -/
  | engine (number : Nat) (call : EngineCall)
  /-- Send the bridge itself a message, on behalf of the engine. -/
  | post (command : Command)
  /-- Ask the host for packets. -/
  | readHost (epoch : Nat)
  /-- Write a packet to the host. -/
  | writeHost (packet : Packet) (family : Family)
  /-- Do something with a session handle. -/
  | session (effect : Session.Effect WriteTag)
  /-- Answer a start. -/
  | started (result : Except Error Unit)
  /-- Answer with the counters. -/
  | traffic (traffic : Traffic)
  /-- Answer with the sessions. -/
  | sessions (entries : List Entry)

/-- An engine that runs. -/
structure Live (σ : Type) where
  /-- The number of the attempt that set it up. -/
  number : Nat
  /-- The epoch that its output carries. -/
  epoch : Nat
  /-- The engine. -/
  state : σ

/-- The bridge between messages. -/
structure Actor (φ σ : Type) where
  /-- What makes engines. -/
  workshop : φ
  /-- How many attempts were made to set up an engine. -/
  attempts : Nat
  /-- The engine that runs, if there is one. -/
  engine : Option (Live σ)
  /-- The current epoch. -/
  epoch : Nat
  /-- Traffic since the last start. -/
  traffic : Traffic
  /-- The sessions. -/
  table : Table

/-- What working on a message leads to. -/
structure Turn (φ σ : Type) where
  /-- The bridge afterwards. -/
  actor : Actor φ σ
  /-- What was done, in order. -/
  effects : List Effect
  /-- Whether an engine broke. -/
  broken : Bool

namespace Turn

variable {φ σ : Type}

/-- Do something and stay as before. -/
def done (a : Actor φ σ) (effects : List Effect) : Turn φ σ := ⟨a, effects, false⟩

/-- Go on from where a turn ended, unless an engine broke. -/
def andThen (t : Turn φ σ) (next : Actor φ σ → Turn φ σ) : Turn φ σ :=
  if t.broken then t
  else
    let u := next t.actor
    { u with effects := t.effects ++ u.effects }

end Turn

namespace Actor

variable {φ σ : Type}

/-- A bridge without engine. -/
def idle (workshop : φ) : Actor φ σ := ⟨workshop, 0, none, 0, .none, .empty⟩

/-- Whether an engine runs. -/
def isLive (a : Actor φ σ) : Bool := a.engine.isSome

/-- The engine, if it runs and an epoch is the current one. -/
def current? (a : Actor φ σ) (epoch : Nat) : Option (Live σ) :=
  if epoch = a.epoch then a.engine else none

/-- Messages to the bridge about what an engine put out. -/
def posts (epoch : Nat) (output : List Emission) : List Effect :=
  output.map fun emission => .post (.emitted epoch emission)

/-- Call on the engine that runs. -/
def callEngine (a : Actor φ σ) (call : EngineCall) (react : σ → Reaction σ) : Turn φ σ :=
  match a.engine with
  | none => .done a []
  | some live =>
    let r := react live.state
    let called := .engine live.number call :: posts live.epoch r.output
    match r.next with
    | some state => .done { a with engine := some { live with state } } called
    | none => ⟨{ a with engine := none }, called ++ [.engine live.number .drop], true⟩

/-- Shut down the engine that runs and open an epoch. -/
def shutdownEngine (k : Kind φ σ) (a : Actor φ σ) : Turn φ σ :=
  match a.engine with
  | none => .done a []
  | some live =>
    let r := k.shutdown live.state
    let effects := .engine live.number .shutdown :: posts live.epoch r.output
      ++ [.engine live.number .drop]
    match r.next with
    | some _ => .done { a with engine := none, epoch := a.epoch + 1 } effects
    | none => ⟨{ a with engine := none }, effects, true⟩

/-- Cancel every session. -/
def cancelSessions (a : Actor φ σ) : Turn φ σ :=
  let (table, cancels) := a.table.cancelAll
  .done { a with table } (cancels.map .session)

/-- Cancel every session and shut down the engine that runs. -/
def stop (k : Kind φ σ) (a : Actor φ σ) : Turn φ σ := a.cancelSessions.andThen (shutdownEngine k)

/-- Set up an engine for a configuration. -/
def setUp (k : Kind φ σ) (config : Config) (a : Actor φ σ) : Turn φ σ :=
  match config.engineParams with
  | .error cause => .done a [.started (.error (.config cause))]
  | .ok params =>
    let epoch := a.epoch + 1
    let number := a.attempts
    let (workshop, output, setup) := k.init a.workshop params
    let opened := { a with workshop, epoch, attempts := number + 1 }
    let called := .engine number (.init epoch params) :: posts epoch output
    match setup with
    | .broken => ⟨opened, called, true⟩
    | .refused => .done opened (called ++ [.started (.error .engine)])
    | .running state =>
      let table := opened.table.withInterface config.requiredInterface
      .done { opened with engine := some ⟨number, epoch, state⟩, traffic := .none, table }
        (called ++ [.readHost epoch, .started (.ok ())])

/-- Start an engine in the place of the one that runs. -/
def start (k : Kind φ σ) (config : Config) (a : Actor φ σ) : Turn φ σ :=
  (a.stop k).andThen (setUp k config)

/-- Hand packets from the host to the engine, one after the other. -/
def handHost (k : Kind φ σ) : List Packet → Actor φ σ → Turn φ σ
  | [], a => .done a []
  | packet :: rest, a =>
    (a.callEngine (.host packet) (k.host · packet)).andThen (handHost k rest)

/-- Hand packets that were read for the current epoch to the engine, and read on. -/
def hostPackets (k : Kind φ σ) (epoch : Nat) (packets : List Packet) (a : Actor φ σ) : Turn φ σ :=
  match a.current? epoch with
  | none => .done a []
  | some _ => (handHost k packets a).andThen fun a => .done a [.readHost epoch]

/-- Pass on something that the engine of the current epoch put out. -/
def emitted (epoch : Nat) (emission : Emission) (a : Actor φ σ) : Turn φ σ :=
  match a.current? epoch, emission with
  | none, _ => .done a []
  | some _, .packet family packet => .done a [.writeHost packet family]
  | some _, .datagram endpoint datagram =>
    let (table, _, effects) := a.table.send endpoint datagram ⟨epoch, datagram.length⟩
    .done { a with table } (effects.map .session)

/-- Count a write of the current epoch that succeeded. -/
def written (tag : WriteTag) (result : WriteResult) (a : Actor φ σ) : Turn φ σ :=
  match a.current? tag.epoch, result with
  | some _, .ok () => .done { a with traffic := a.traffic.sent tag.length } []
  | _, _ => .done a []

/-- Count datagrams from the network and hand them to the engine, one after the other. -/
def handTunnel (k : Kind φ σ) : List Packet → Actor φ σ → Turn φ σ
  | [], a => .done a []
  | datagram :: rest, a =>
    let counted := { a with traffic := a.traffic.received datagram.length }
    (counted.callEngine (.tunnel datagram) (k.tunnel · datagram)).andThen (handTunnel k rest)

/-- Work on a message. -/
def command (k : Kind φ σ) (a : Actor φ σ) : Command → Turn φ σ
  | .start config => a.start k config
  | .stop => a.stop k
  | .traffic => .done a [.traffic a.traffic]
  | .sessions => .done a [.sessions a.table.entries]
  | .hostPackets epoch packets => a.hostPackets k epoch packets
  | .emitted epoch emission => a.emitted epoch emission
  | .written tag result => a.written tag result
  | .shutdown => a.stop k

/-- Work on what a session handle reported; without an engine it is of no interest. -/
def notification (k : Kind φ σ) (a : Actor φ σ) (n : Notification) : Turn φ σ :=
  if a.isLive then
    let (table, datagrams, effects) := a.table.notify n
    (Turn.done { a with table } (effects.map .session)).andThen (handTunnel k (datagrams.getD []))
  else .done a []

/-- Tell the engine that time has passed. -/
def tick (k : Kind φ σ) (a : Actor φ σ) : Turn φ σ := a.callEngine .tick k.tick

end Actor

end PacketTunnel.Bridge
