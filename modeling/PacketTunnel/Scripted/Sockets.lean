import PacketTunnel.Session.Socket

/-!
# A session where there are no sockets

A session over a socket in surroundings that never grant one. Its handle is used step by step, and
between the steps the session runs until it has nothing left to do. Its reports are heard as long as
somebody listens.
-/

namespace PacketTunnel.Scripted

open Session

/-- A session and who holds on to it. -/
structure SocketDesk where
  /-- The session. -/
  socket : Socket Unit
  /-- Whether its handle is still held. -/
  held : Bool
  /-- Whether somebody listens to its reports. -/
  listened : Bool

/-- What was heard of a session. -/
structure Heard where
  /-- The events reported, in order. -/
  events : List Event
  /-- The results of writes, in the order in which they ended. -/
  results : List (Except WriteFailure Unit)

/-- Something done to a session from outside. -/
inductive SocketAction where
  /-- Write datagrams through the handle. -/
  | write (datagrams : List Packet)
  /-- Cancel it through the handle. -/
  | cancel
  /-- Give the handle up. -/
  | release
  /-- Stop listening. -/
  | stopListening
  /-- Nothing that the session could notice. -/
  | idle

namespace SocketDesk

/-- Why no socket is granted: it is not permitted. -/
def refusal : Failure := .system 1

/-- A session that was just set up. -/
def fresh (limit : Nat) : SocketDesk := ⟨.start limit, true, true⟩

/-- What is heard of effects. -/
def hear (d : SocketDesk) (effects : List (SocketEffect Unit)) : Heard where
  events := if d.listened then effects.filterMap fun
      | .report event => some event
      | _ => none
    else []
  results := effects.filterMap fun
    | .complete _ result => some result
    | _ => none

/-- The turns that a session takes until it has nothing left to do. -/
def turns (s : Socket Unit) : List SocketTurn :=
  .prepare :: .connect (.error refusal) :: s.waiting.map fun _ => .serve (.error refusal)

/-- Write datagrams one after the other. -/
def writeAll (s : Socket Unit) : List Packet → Socket Unit × List (SocketEffect Unit)
  | [] => (s, [])
  | datagram :: rest =>
    let (s, effects) := s.write datagram ()
    let (s, more) := writeAll s rest
    (s, effects ++ more)

/-- Do something. A handle that was given up is of no use. -/
def act (d : SocketDesk) : SocketAction → SocketDesk × List (SocketEffect Unit)
  | .write datagrams =>
    if d.held then
      let (socket, effects) := writeAll d.socket datagrams
      ({ d with socket }, effects)
    else (d, [])
  | .cancel =>
    if d.held then
      let (socket, effects) := d.socket.cancel
      ({ d with socket }, effects)
    else (d, [])
  | .release => ({ d with socket := d.socket.release, held := false }, [])
  | .stopListening => ({ d with listened := false }, [])
  | .idle => (d, [])

/-- Do something, and let the session run behind it unless it has to wait. -/
def step (d : SocketDesk) (action : SocketAction) (waits : Bool) : SocketDesk × Heard :=
  let (d, effects) := d.act action
  if waits then (d, d.hear effects)
  else
    let (socket, more) := d.socket.run d.listened (turns d.socket)
    ({ d with socket }, d.hear (effects ++ more))

end SocketDesk

end PacketTunnel.Scripted
