import PacketTunnel.Net.Endpoint
import PacketTunnel.Session.Event

/-!
# Session table

One UDP session for each endpoint that datagrams are sent to, set up when the first one is. A
session keeps its number for life; its handle is replaced when a better path shows up, and every
handle has a generation of its own. Numbers and generations are never given twice.

The operations do not touch the network. They say, in order, what is to be done with handles, and a
handle is named by its generation.
-/

namespace PacketTunnel.Session

open Net

/-- A live session. -/
structure Entry where
  /-- The number of the session. -/
  id : Nat
  /-- The endpoint that datagrams go to. -/
  endpoint : Endpoint
  /-- The generation of the current handle. -/
  generation : Nat
  /-- Whether the network called the session ready. -/
  ready : Bool
  /-- Whether the network calls the session viable. -/
  viable : Bool
  deriving DecidableEq, Repr

/-- What is told about a live session. -/
structure Info where
  /-- The number of the session. -/
  id : Nat
  /-- The endpoint that datagrams go to. -/
  endpoint : Endpoint
  /-- Whether the network called the session ready. -/
  ready : Bool
  /-- Whether the network calls the session viable. -/
  viable : Bool
  deriving DecidableEq, Repr

/-- What is told about a session; its handle is kept to the table. -/
def Entry.info (e : Entry) : Info := ⟨e.id, e.endpoint, e.ready, e.viable⟩

/-- What is to be done with handles. `κ` names the completions of writes. -/
inductive Effect (κ : Type) where
  /-- Set up the first handle of a session. -/
  | create (session generation : Nat) (endpoint : Endpoint) (interface : Option String)
  /-- Set up a handle on a better path. -/
  | upgrade (session generation : Nat) (endpoint : Endpoint) (interface : Option String)
  /-- Write a datagram to a handle. -/
  | write (generation : Nat) (datagram : Packet) (completion : κ)
  /-- Cancel a handle. -/
  | cancel (generation : Nat)
  deriving DecidableEq, Repr

/-- The live sessions, in the order of their numbers, with the index by endpoint. -/
structure Table where
  /-- The live sessions. -/
  entries : List Entry
  /-- The number of the session that serves an endpoint. -/
  byEndpoint : List (Endpoint × Nat)
  /-- The interface that new handles must use. -/
  requiredInterface : Option String
  /-- The number of the next session. -/
  nextId : Nat
  /-- The generation of the next handle. -/
  nextGeneration : Nat
  deriving DecidableEq, Repr

namespace Table

variable {κ : Type}

/-- A table without sessions. -/
def empty : Table := ⟨[], [], none, 1, 1⟩

/-- Demand an interface for new handles; handles that exist are left alone. -/
def withInterface (t : Table) (interface : Option String) : Table :=
  { t with requiredInterface := interface }

/-- The live session of a number. -/
def entry? (t : Table) (id : Nat) : Option Entry := t.entries.find? (·.id = id)

/-- The number of the session that serves an endpoint. -/
def sessionFor? (t : Table) (endpoint : Endpoint) : Option Nat := t.byEndpoint.lookup endpoint

/-- How many sessions are live. -/
def count (t : Table) : Nat := t.entries.length

/-- What is told about the live sessions, in the order of their numbers. -/
def sessions (t : Table) : List Info :=
  (t.entries.map Entry.info).mergeSort fun a b => decide (a.id ≤ b.id)

/-- Change the live session of a number. -/
def update (t : Table) (id : Nat) (change : Entry → Entry) : Table :=
  { t with entries := t.entries.map fun e => if e.id = id then change e else e }

/-- A new session to an endpoint. -/
def create (t : Table) (endpoint : Endpoint) : Table × Nat × List (Effect κ) :=
  let id := t.nextId
  let generation := t.nextGeneration
  let entry : Entry := ⟨id, endpoint, generation, false, true⟩
  ({ t with
    entries := t.entries ++ [entry]
    byEndpoint := (endpoint, id) :: t.byEndpoint.filter (·.1 ≠ endpoint)
    nextId := id + 1
    nextGeneration := generation + 1 },
    id, [.create id generation endpoint t.requiredInterface])

/-- The session that serves an endpoint, a new one if there is none. -/
def serve (t : Table) (endpoint : Endpoint) : Table × Nat × List (Effect κ) :=
  match t.sessionFor? endpoint with
  | some id => (t, id, [])
  | none => t.create endpoint

/-- Send a datagram to an endpoint. -/
def send (t : Table) (endpoint : Endpoint) (datagram : Packet) (completion : κ) :
    Table × Nat × List (Effect κ) :=
  let (t, id, created) := t.serve endpoint
  let written := match t.entry? id with
    | some e => [.write e.generation datagram completion]
    | none => []
  (t, id, created ++ written)

/-- Give a session a handle on a better path and cancel the one it had. -/
def migrate (t : Table) (e : Entry) : Table × List (Effect κ) :=
  let generation := t.nextGeneration
  let moved := t.update e.id fun e =>
    { e with generation := generation, ready := false, viable := true }
  ({ moved with nextGeneration := generation + 1 },
    [.upgrade e.id generation e.endpoint t.requiredInterface, .cancel e.generation])

/-- Forget a session. -/
def remove (t : Table) (e : Entry) : Table :=
  { t with
    entries := t.entries.filter (·.id ≠ e.id)
    byEndpoint := t.byEndpoint.filter (· ≠ (e.endpoint, e.id)) }

/-- Apply an event of a session's current handle: the datagrams that came in, if the event is about
any, and what is to be done. -/
def apply (t : Table) (e : Entry) : Event → Table × Option (List Packet) × List (Effect κ)
  | .state .ready => (t.update e.id ({ · with ready := true }), none, [])
  | .state .preparing => (t.update e.id ({ · with ready := false }), none, [])
  | .state .failed => (t.update e.id ({ · with ready := false }), none, [])
  | .state .cancelled => (t.remove e, none, [])
  | .viable viable => (t.update e.id ({ · with viable := viable }), none, [])
  | .betterPath =>
    let (t, effects) := t.migrate e
    (t, none, effects)
  | .datagrams datagrams => (t, some datagrams, [])
  | .readError _ => (t, none, [])

/-- Apply a notification, unless it is about an unknown session or by a handle that was replaced. -/
def notify (t : Table) (n : Notification) : Table × Option (List Packet) × List (Effect κ) :=
  match t.entry? n.session with
  | none => (t, none, [])
  | some e => if e.generation = n.generation then t.apply e n.event else (t, none, [])

/-- Cancel and forget every session; where none is live, nothing is touched. -/
def cancelAll (t : Table) : Table × List (Effect κ) :=
  if t.entries.isEmpty then (t, [])
  else ({ t with entries := [], byEndpoint := [] }, t.entries.map fun e => .cancel e.generation)

end Table

end PacketTunnel.Session
