import PacketTunnel.Config
import PacketTunnel.Packet

/-!
# Tunnel engines

An engine turns packets into datagrams and datagrams into packets; how it does so is not said here.
It is told about packets of either kind and about the passing of time, and whenever it is called it
may put out datagrams and packets. A call may also break it, and then it is of no further use.
-/

namespace PacketTunnel.Bridge

open Net

/-- Something that an engine puts out. -/
inductive Emission where
  /-- A datagram for the network. -/
  | datagram (endpoint : Endpoint) (datagram : Packet)
  /-- A packet for the host. -/
  | packet (family : Family) (packet : Packet)
  deriving DecidableEq, Repr

/-- What a call on an engine of state `σ` leads to. -/
structure Reaction (σ : Type) where
  /-- What the engine puts out, in order. -/
  output : List Emission
  /-- The engine after the call, unless the call broke it. -/
  next : Option σ

/-- How an attempt to set up an engine ends. -/
inductive Setup (σ : Type) where
  /-- The engine runs. -/
  | running (engine : σ)
  /-- There is no engine. -/
  | refused
  /-- The attempt broke off. -/
  | broken

/-- A kind of engine, with a workshop of state `φ` that makes engines of state `σ`. -/
structure Kind (φ σ : Type) where
  /-- Set up an engine; it may put something out already. -/
  init : φ → EngineParams → φ × List Emission × Setup σ
  /-- Hand over a packet from the host. -/
  host : σ → Packet → Reaction σ
  /-- Hand over a datagram from the network. -/
  tunnel : σ → Packet → Reaction σ
  /-- Say that time has passed. -/
  tick : σ → Reaction σ
  /-- Say that the engine is no longer needed. -/
  shutdown : σ → Reaction σ

end PacketTunnel.Bridge
