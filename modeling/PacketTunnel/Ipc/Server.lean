import PacketTunnel.Ipc.Codec
import PacketTunnel.Ipc.Window

/-!
# The server

The server keeps its window on a serial queue. Commands come in decoded or as messages; a message
that is no command is refused, and its handler is dropped. A transport within one process hands
messages to the server as long as it is connected, and answers with no data afterwards.
-/

namespace PacketTunnel.Ipc

/-- A server. -/
abbrev Server (η ω : Type) := SerialQueue (List (Slot η)) (ServerJob η ω)

namespace Server

variable {η ω : Type}

/-- A server with an empty window. -/
def fresh : Server η ω := SerialQueue.fresh []

/-- How many slots the server holds. -/
def buffered (s : Server η ω) : Nat := s.state.length

/-- Accept a command. -/
def handle (s : Server η ω) (command : Command Action) (handler : η) :
    Except Error (Server η ω) :=
  (s.post (.handle command handler)).map (·.1)

/-- Accept a message. -/
def handleMessage (s : Server η ω) (message : List UInt8) (handler : η) :
    Except Error (Server η ω) := do
  s.handle (← Action.form.decode message) handler

/-- Post a push, and tell an observer how it ended. -/
def postReconnected (s : Server η ω) (endpoint : String) (observer : ω) :
    Except Error (Server η ω) :=
  (s.post (.push endpoint (some observer))).map (·.1)

/-- Post a push whose outcome is waited for under a ticket. -/
def sendReconnected (s : Server η ω) (endpoint : String) : Except Error (Server η ω × Nat) :=
  s.post (.push endpoint none)

/-- Drop all slots. -/
def stop (s : Server η ω) : Except Error (Server η ω) := (s.post .stop).map (·.1)

end Server

/-- What a transport within one process does with a message. -/
inductive Delivery (η ω : Type) where
  /-- The server has it. -/
  | delivered (server : Server η ω)
  /-- Nobody is there: the handler is called with no data. -/
  | unanswered
  /-- It was refused: the handler is dropped. -/
  | refused (cause : Error)

/-- Send a message through a transport within one process. -/
def deliver {η ω : Type} (connected : Bool) (s : Server η ω) (message : List UInt8) (handler : η) :
    Delivery η ω :=
  if connected then
    match s.handleMessage message handler with
    | .ok s => .delivered s
    | .error cause => .refused cause
  else .unanswered

end PacketTunnel.Ipc
