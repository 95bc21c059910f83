import PacketTunnel.Packet

/-!
# Events of UDP sessions

The network reports what happens to a session as events. An event carries the session it is about
and the generation of the handle that reported it, so events of a handle that was replaced can be
told from those of its successor.
-/

namespace PacketTunnel.Session

/-- What the network says about the state of a session. -/
inductive State where
  /-- The session is being set up. -/
  | preparing
  /-- The session can be used. -/
  | ready
  /-- The session could not be set up. -/
  | failed
  /-- The session is gone. -/
  | cancelled
  deriving DecidableEq, Repr

/-- What a handle reports. -/
inductive Event where
  /-- The session has another state. -/
  | state (state : State)
  /-- There is a better path to the same endpoint. -/
  | betterPath
  /-- The session became viable, or stopped being so. -/
  | viable (viable : Bool)
  /-- Datagrams came in. -/
  | datagrams (datagrams : List Packet)
  /-- Reading failed. -/
  | readError (reason : String)
  deriving DecidableEq, Repr

/-- What a write ends with: nothing, or the reason why it failed. -/
abbrev WriteResult := Except String Unit

/-- An event with the handle that reported it. -/
structure Notification where
  /-- The session the event is about. -/
  session : Nat
  /-- The generation of the handle. -/
  generation : Nat
  /-- The event. -/
  event : Event
  deriving DecidableEq, Repr

end PacketTunnel.Session
