import PacketTunnel.Scripted.Network

/-!
# A session table on a scripted network

What is done to a session table alone, with a log of the calls on handles and of the ends of writes.
Reports of handles wait in a queue until they are taken, unless nobody listens any more.
-/

namespace PacketTunnel.Scripted

open Net Session

/-- An entry of the log. -/
inductive SessionEntry where
  /-- A call on a handle. -/
  | handle (effect : Effect Unit)
  /-- The end of a write. -/
  | done (result : WriteResult)

/-- A session table with its network. -/
structure Sessions where
  /-- The table. -/
  table : Table
  /-- The network. -/
  network : Network Unit
  /-- Reports not yet taken, unless nobody listens. -/
  reports : Option (List Notification)

namespace Sessions

/-- An empty table on a fresh network. -/
def fresh : Sessions := ⟨.empty, .fresh, some []⟩

/-- Do what a table asks for. -/
def perform (s : Sessions) : List (Effect Unit) → Sessions × List SessionEntry
  | [] => (s, [])
  | effect :: rest =>
    let (network, ends) := s.network.perform effect
    let (s, log) := perform { s with network } rest
    (s, .handle effect :: ends.map (fun e => .done e.2) ++ log)

/-- Send a datagram: the session that serves the endpoint. -/
def send (s : Sessions) (endpoint : Endpoint) (datagram : Packet) :
    Sessions × Nat × List SessionEntry :=
  let (table, id, effects) := s.table.send endpoint datagram ()
  let (s, log) := perform { s with table } effects
  (s, id, log)

/-- Pass a notification to the table: the datagrams it carries. -/
def notify (s : Sessions) (n : Notification) :
    Sessions × Option (List Packet) × List SessionEntry :=
  let (table, datagrams, effects) := s.table.notify n
  let (s, log) := perform { s with table } effects
  (s, datagrams, log)

/-- Let a handle report something, if there is such a handle: whether anybody listens. -/
def emit? (s : Sessions) (handle : Nat) (event : Event) : Option (Sessions × Bool) :=
  (s.network.report? handle event).map fun n =>
    match s.reports with
    | none => (s, false)
    | some reports => ({ s with reports := some (reports ++ [n]) }, true)

/-- Pass notifications to the table one after the other. -/
def notifyAll (s : Sessions) : List Notification →
    Sessions × List (Notification × Option (List Packet)) × List SessionEntry
  | [] => (s, [], [])
  | n :: rest =>
    let (s, datagrams, log) := s.notify n
    let (s, answers, more) := s.notifyAll rest
    (s, (n, datagrams) :: answers, log ++ more)

/-- Take all reports. -/
def pump (s : Sessions) :
    Sessions × List (Notification × Option (List Packet)) × List SessionEntry :=
  notifyAll { s with reports := s.reports.map fun _ => [] } (s.reports.getD [])

/-- Finish a held write: whether there was one. -/
def finish (s : Sessions) (write : Nat) (result : WriteResult) :
    Sessions × Bool × List SessionEntry :=
  match s.network.finish? write with
  | none => (s, false, [])
  | some (_, network) => ({ s with network }, true, [.done result])

/-- Cancel every session. -/
def cancelAll (s : Sessions) : Sessions × List SessionEntry :=
  let (table, effects) := s.table.cancelAll
  perform { s with table } effects

/-- Stop listening. -/
def close (s : Sessions) : Sessions := { s with reports := none }

end Sessions

end PacketTunnel.Scripted
