import PacketTunnel.Uuid

/-!
# Commands

The messages between the two processes: an identifier with an action of the host, or with a reply of
the server. Two commands are the same if their identifiers are.
-/

namespace PacketTunnel.Ipc

/-- How many reply slots a client keeps open unless told otherwise. -/
def defaultWindow : Nat := 5

/-- What the host asks of the server. -/
inductive Action where
  /-- Start over with an empty window. -/
  | start
  /-- Keep a reply slot open. -/
  | fillBuffer
  deriving DecidableEq, Repr

/-- What the server answers. -/
inductive Reply where
  /-- The server has started over. -/
  | serverStarted
  /-- The server is about to run out of reply slots. -/
  | needBuffer
  /-- The tunnel has reconnected to an endpoint. -/
  | reconnected (endpoint : String)
  deriving DecidableEq, Repr

/-- A message. -/
structure Command (α : Type) where
  /-- What tells this message from all others. -/
  id : Uuid
  /-- What the message says. -/
  action : α
  deriving Repr

namespace Command

variable {α : Type}

/-- Whether two commands are the same: only the identifiers count. -/
def same (c d : Command α) : Bool := c.id = d.id

instance : BEq (Command α) := ⟨same⟩

end Command

end PacketTunnel.Ipc
