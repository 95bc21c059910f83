import PacketTunnel.Ipc.Client
import PacketTunnel.Ipc.Server

/-!
# Clients and their server

Any number of clients, each joined to one server by a transport within the process. A reply handler
is named by the client it belongs to. Everything that runs on its own runs in small steps, and steps
of different queues may come in any order; identifiers are drawn by whoever takes the step.
-/

namespace PacketTunnel.Ipc

/-- A client with its transport. -/
structure Link where
  /-- The client. -/
  client : Client
  /-- Whether the transport still leads to the server. -/
  connected : Bool
  deriving DecidableEq, Repr

/-- Clients joined to a server. `ω` names the pushes. -/
structure System (ω : Type) where
  /-- The clients. -/
  links : List Link
  /-- The server. -/
  server : Server Nat ω

/-- Something that happens to the system, or that it does on its own. -/
inductive SystemStep (ω : Type) where
  /-- A client is told to start. -/
  | start (client : Nat)
  /-- A client is told to stop. -/
  | stop (client : Nat)
  /-- The transport of a client stops leading to the server. -/
  | disconnect (client : Nat)
  /-- A push is posted to the server. -/
  | push (name : ω) (endpoint : String)
  /-- The server is told to drop its slots. -/
  | stopServer
  /-- A client's task queue takes a step. -/
  | task (client : Nat) (id : Uuid)
  /-- A client's reply queue takes a step. -/
  | reply (client : Nat)
  /-- The server takes a step. -/
  | serve (id : Uuid)

/-- Something that can be seen of the system. -/
inductive SystemOutput (ω : Type) where
  /-- A client has sent an action. -/
  | sent (client : Nat) (action : Action)
  /-- A client has told the host something. -/
  | event (client : Nat) (event : ClientEvent)
  /-- A push has ended. -/
  | pushed (name : ω) (result : Except Error Unit)

namespace System

variable {ω : Type}

/-- Stopped clients with windows of the given sizes, joined to a server. -/
def fresh (windows : List Nat) : System ω := ⟨windows.map fun n => ⟨.fresh n, true⟩, .fresh⟩

/-- Handlers of clients post nothing to the server and do not break off. -/
def handling : Handling Nat ω := fun _ _ => ⟨[], false⟩

/-- The transport of a client. -/
def transport (client : Nat) (connected : Bool) : Transport (Server Nat ω × List Action) :=
  fun (server, sent) command =>
    let sent := sent ++ [command.action]
    match deliver connected server (Action.form.encode command) client with
    | .delivered server => ((server, sent), ⟨none, false⟩)
    | .unanswered => ((server, sent), ⟨some .noData, false⟩)
    | .refused _ => ((server, sent), ⟨none, true⟩)

/-- Change a link. -/
def modifyLink (s : System ω) (client : Nat) (change : Link → Link) : System ω :=
  { s with links := s.links.modify client change }

/-- Change a client. -/
def modifyClient (s : System ω) (client : Nat) (change : Client → Client) : System ω :=
  s.modifyLink client fun l => { l with client := change l.client }

/-- Post a job to the server, whose worker never stops here. -/
def postServer (s : System ω) (job : ServerJob Nat ω) : System ω :=
  match s.server.post job with
  | .ok (server, _) => { s with server }
  | .error _ => s

/-- A step of a client's task queue. -/
def taskStep (s : System ω) (client : Nat) (id : Uuid) : System ω × List (SystemOutput ω) :=
  match s.links[client]? with
  | none => (s, [])
  | some link =>
    match link.client.taskStep? (transport client link.connected) id (s.server, []) with
    | none => (s, [])
    | some (changed, (server, sent), events) =>
      (modifyClient { s with server } client fun _ => changed,
        sent.map (.sent client) ++ events.map (.event client))

/-- A step of a client's reply queue. -/
def replyStep (s : System ω) (client : Nat) : System ω × List (SystemOutput ω) :=
  match s.links[client]? with
  | none => (s, [])
  | some link =>
    match link.client.replyStep? with
    | none => (s, [])
    | some (changed, events) => (s.modifyClient client fun _ => changed, events.map (.event client))

/-- Let what the server did reach clients and pushes. -/
def perform (id : Uuid) (s : System ω) :
    ServerEffect Nat ω → System ω × List (SystemOutput ω)
  | .answer client reply =>
    (s.modifyClient client (·.receive (.ofBytes (some (Reply.form.encode ⟨id, reply⟩)))), [])
  | .drop _ => (s, [])
  | .observe name result => (s, [.pushed name result])

/-- Let several things that the server did reach clients and pushes. -/
def performAll (id : Uuid) (s : System ω) :
    List (ServerEffect Nat ω) → System ω × List (SystemOutput ω)
  | [] => (s, [])
  | effect :: rest =>
    let (s, output) := s.perform id effect
    let (s, more) := performAll id s rest
    (s, output ++ more)

/-- A step of the server. -/
def serveStep (s : System ω) (id : Uuid) : System ω × List (SystemOutput ω) :=
  match s.server.step? (Window.worker handling) with
  | none => (s, [])
  | some (server, effects, _) => performAll id { s with server } effects

/-- Take a step. -/
def step (s : System ω) : SystemStep ω → System ω × List (SystemOutput ω)
  | .start client => (s.modifyClient client (·.post .start), [])
  | .stop client => (s.modifyClient client (·.post .stop), [])
  | .disconnect client => (s.modifyLink client fun l => { l with connected := false }, [])
  | .push name endpoint => (s.postServer (.push endpoint (some name)), [])
  | .stopServer => (s.postServer .stop, [])
  | .task client id => s.taskStep client id
  | .reply client => s.replyStep client
  | .serve id => s.serveStep id

/-- Take steps one after the other. -/
def run (s : System ω) : List (SystemStep ω) → System ω × List (SystemOutput ω)
  | [] => (s, [])
  | next :: rest =>
    let (s, output) := s.step next
    let (s, more) := run s rest
    (s, output ++ more)

/-- Whether nothing is queued or under way. -/
def isQuiet (s : System ω) : Bool :=
  s.server.channel.isEmpty && s.links.all fun l =>
    l.client.refill.isNone && l.client.tasks.isEmpty && l.client.replies.isEmpty

end System

end PacketTunnel.Ipc
