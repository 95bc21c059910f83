import PacketTunnel.Ipc.Server

/-!
# A server with scripted handlers

A server whose reply handlers carry a tag and do one thing when they are called: break off, or post
a push or a command to the server. After everything that happens the server works off what was
posted.
-/

namespace PacketTunnel.Scripted

open Ipc

/-- A reply handler with tags of type `τ`. -/
inductive Handler (τ : Type) where
  /-- A handler that breaks off, or posts a push and then a command. -/
  | mk (tag : τ) (fails : Bool) (push : Option String)
    (command : Option (Command Ipc.Action × Handler τ))

namespace Handler

variable {τ : Type}

/-- The tag. -/
def tag : Handler τ → τ
  | mk tag _ _ _ => tag

/-- A bound on how many jobs a handler can ever lead to. -/
def weight : Handler τ → Nat
  | mk _ _ _ none => 1
  | mk _ _ _ (some (_, next)) => next.weight + 2

end Handler

/-- Who is told about the end of a push. -/
inductive Observer where
  /-- Whoever posted it. -/
  | posted
  /-- The handler that posted it. -/
  | nested
  deriving DecidableEq, Repr

/-- What the handlers do. -/
def handling {τ : Type} : Handling (Handler τ) Observer
  | .mk _ true _ _, _ => ⟨[], true⟩
  | .mk _ false push command, _ =>
    let pushes := push.toList.map fun endpoint => .push endpoint (some .nested)
    let commands := command.toList.map fun (command, handler) => .handle command handler
    ⟨pushes ++ commands, false⟩

/-- An entry of the log. -/
inductive DeskEntry (τ : Type) where
  /-- A handler was called, with an answer or with no data. -/
  | answer (tag : τ) (reply : Option Reply)
  /-- A handler was dropped without being called. -/
  | drop (tag : τ)
  /-- A push has ended. -/
  | observe (observer : Observer) (result : Except Error Unit)

/-- The entry of something that the server did. -/
def DeskEntry.ofEffect {τ : Type} : ServerEffect (Handler τ) Observer → DeskEntry τ
  | .answer handler reply => .answer handler.tag (some reply)
  | .drop handler => .drop handler.tag
  | .observe observer result => .observe observer result

/-- A server with a transport to it. -/
structure Desk (τ : Type) where
  /-- The server. -/
  server : Server (Handler τ) Observer
  /-- Whether the transport leads to the server. -/
  connected : Bool

namespace Desk

variable {τ : Type}

/-- A server with an empty window and its transport. -/
def fresh : Desk τ := ⟨.fresh, true⟩

/-- A bound on how many jobs a message can ever lead to. -/
def messageWeight : Posted (ServerJob (Handler τ) Observer) → Nat
  | .run _ (.handle _ handler) => handler.weight + 1
  | _ => 1

/-- A bound on how many steps are left: handlers that wait in slots count as well. -/
def weight (d : Desk τ) : Nat :=
  (d.server.channel.map messageWeight ++ d.server.state.map (·.handler.weight)).foldl (· + ·) 0

/-- Work off what was posted. -/
def settle (d : Desk τ) : Desk τ × List (DeskEntry τ) × List (Outcome ServerResult) :=
  let (server, effects, outcomes) := d.server.drain (Window.worker handling) d.weight
  ({ d with server }, effects.map .ofEffect, outcomes)

/-- Go on after something was posted, or was refused. -/
def afterPost (d : Desk τ) (refused : List (DeskEntry τ)) :
    Except Error (Server (Handler τ) Observer) → Desk τ × Except Error Unit × List (DeskEntry τ)
  | .error e => (d, .error e, refused)
  | .ok server =>
    let (d, log, _) := settle { d with server }
    (d, .ok (), log)

/-- Hand the server a command. -/
def handle (d : Desk τ) (command : Command Ipc.Action) (handler : Handler τ) :
    Desk τ × Except Error Unit × List (DeskEntry τ) :=
  d.afterPost [.drop handler.tag] (d.server.handle command handler)

/-- Hand the server a message. -/
def message (d : Desk τ) (message : List UInt8) (handler : Handler τ) :
    Desk τ × Except Error Unit × List (DeskEntry τ) :=
  d.afterPost [.drop handler.tag] (d.server.handleMessage message handler)

/-- Post jobs that are not refused. -/
def postAll (d : Desk τ) (jobs : List (ServerJob (Handler τ) Observer)) : Desk τ :=
  { d with server := jobs.foldl SerialQueue.push d.server }

/-- Send a message through the transport. -/
def send (d : Desk τ) (message : List UInt8) (handler : Handler τ) :
    Desk τ × Except Error Unit × List (DeskEntry τ) :=
  match deliver d.connected d.server message handler with
  | .delivered server => d.afterPost [] (.ok server)
  | .refused e => (d, .error e, [.drop handler.tag])
  | .unanswered =>
    let (d, log, _) := (d.postAll (handling handler none).posted).settle
    (d, .ok (), .answer handler.tag none :: log)

/-- Let the transport lead nowhere. -/
def disconnect (d : Desk τ) : Desk τ := { d with connected := false }

/-- Push an event and wait for the end of the push. -/
def push (d : Desk τ) (endpoint : String) : Desk τ × Except Error Unit × List (DeskEntry τ) :=
  match d.server.sendReconnected endpoint with
  | .error e => (d, .error e, [])
  | .ok (server, ticket) =>
    let (d, log, outcomes) := settle { d with server }
    let result := match SerialQueue.resultOf ticket outcomes with
      | .ok (.pushed result) => result
      | .ok _ => .ok ()
      | .error e => .error e
    (d, result, log)

/-- Push an event without waiting. -/
def postPush (d : Desk τ) (endpoint : String) : Desk τ × Except Error Unit × List (DeskEntry τ) :=
  d.afterPost [] (d.server.postReconnected endpoint .posted)

/-- Let the server drop its slots. -/
def stop (d : Desk τ) : Desk τ × Except Error Unit × List (DeskEntry τ) :=
  d.afterPost [] d.server.stop

end Desk

end PacketTunnel.Scripted
