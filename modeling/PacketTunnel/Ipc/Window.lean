import PacketTunnel.Ipc.Command
import PacketTunnel.Ipc.SerialQueue

/-!
# The window of reply slots

The server cannot address the host, so the host keeps a window of commands open that the server may
answer when it has something to say. Every event uses up the oldest slot. If an event would leave
just one slot, that one is answered too, with the request to fill the window again.

What a handler does when it is called is a parameter: it may post jobs to the server, and it may
break off, and then the job that called it ends there. Whatever such a job held is dropped.
-/

namespace PacketTunnel.Ipc

/-- A command that waits for its answer. -/
structure Slot (η : Type) where
  /-- The command. -/
  command : Command Action
  /-- What takes the answer. -/
  handler : η

/-- A job of the server. `η` are the handlers, `ω` what is told about the end of a push. -/
inductive ServerJob (η ω : Type) where
  /-- Accept a command. -/
  | handle (command : Command Action) (handler : η)
  /-- Tell the host that the tunnel has reconnected to an endpoint. -/
  | push (endpoint : String) (observer : Option ω)
  /-- Drop all slots. -/
  | stop
  /-- Count the slots. -/
  | count

/-- What the server does to handlers and observers. -/
inductive ServerEffect (η ω : Type) where
  /-- Call a handler with an answer. -/
  | answer (handler : η) (reply : Reply)
  /-- Drop a handler without calling it. -/
  | drop (handler : η)
  /-- Tell an observer how a push ended. -/
  | observe (observer : ω) (result : Except Error Unit)

/-- The result of a job. -/
inductive ServerResult where
  /-- Nothing to tell. -/
  | accepted
  /-- How a push ended. -/
  | pushed (result : Except Error Unit)
  /-- How many slots there are. -/
  | count (slots : Nat)

/-- What calling a handler leads to. -/
structure Called (η ω : Type) where
  /-- The jobs that it posted to the server. -/
  posted : List (ServerJob η ω)
  /-- Whether it broke off. -/
  broken : Bool

/-- What handlers do when they are called, with an answer or with no data. -/
abbrev Handling (η ω : Type) := η → Option Reply → Called η ω

/-- A job of the server half-way. -/
structure Window.Progress (η ω : Type) where
  /-- The slots. -/
  slots : List (Slot η)
  /-- What was done, in order. -/
  effects : List (ServerEffect η ω)
  /-- The jobs that handlers posted. -/
  posted : List (ServerJob η ω)
  /-- Whether a handler broke off. -/
  broken : Bool

namespace Window

variable {η ω : Type}

/-- A job that has done nothing but change the slots. -/
def Progress.start (slots : List (Slot η)) : Progress η ω := ⟨slots, [], [], false⟩

/-- Drop handlers without calling them. -/
def Progress.drop (p : Progress η ω) (handlers : List η) : Progress η ω :=
  { p with effects := p.effects ++ handlers.map .drop }

/-- Call a handler. -/
def Progress.answer (p : Progress η ω) (handling : Handling η ω) (handler : η) (reply : Reply) :
    Progress η ω :=
  let called := handling handler (some reply)
  { p with
    effects := p.effects ++ [.answer handler reply]
    posted := p.posted ++ called.posted
    broken := called.broken }

/-- Start over: drop all slots, then answer. -/
def restart (handling : Handling η ω) (slots : List (Slot η)) (handler : η) : Progress η ω :=
  ((Progress.start []).drop (slots.map (·.handler))).answer handling handler .serverStarted

/-- Keep a slot open. A command that is there already keeps its place and gets the new handler. -/
def keep (slots : List (Slot η)) (command : Command Action) (handler : η) : Progress η ω :=
  match slots.find? (·.command.same command) with
  | none => .start (slots ++ [⟨command, handler⟩])
  | some old =>
    let kept := slots.map fun s => if s.command.same command then { s with handler } else s
    (Progress.start kept).drop [old.handler]

/-- Accept a command. -/
def handle (handling : Handling η ω) (slots : List (Slot η)) (command : Command Action)
    (handler : η) : Progress η ω :=
  match command.action with
  | .start => restart handling slots handler
  | .fillBuffer => keep slots command handler

/-- Push an event through the oldest slot, unless there is none. -/
def push (handling : Handling η ω) (slots : List (Slot η)) (endpoint : String) :
    Progress η ω × Except Error Unit :=
  match slots with
  | [] => (.start [], .error .bufferUnderflow)
  | [first, last] =>
    let asked := (Progress.start []).answer handling last.handler .needBuffer
    if asked.broken then (asked.drop [first.handler], .ok ())
    else (asked.answer handling first.handler (.reconnected endpoint), .ok ())
  | first :: rest =>
    ((Progress.start rest).answer handling first.handler (.reconnected endpoint), .ok ())

/-- What the server's worker owes for a job half-way, with its result if nothing broke off. -/
def Progress.done (p : Progress η ω) (result : ServerResult) (last : List (ServerEffect η ω)) :
    Done (List (Slot η)) (ServerJob η ω) (ServerEffect η ω) ServerResult :=
  if p.broken then ⟨p.slots, p.effects, p.posted, none⟩
  else ⟨p.slots, p.effects ++ last, p.posted, some result⟩

/-- What is told about the end of a push. -/
def observation (observer : Option ω) (result : Except Error Unit) : List (ServerEffect η ω) :=
  match observer with
  | none => []
  | some observer => [.observe observer result]

/-- What the jobs of the server do. -/
def worker (handling : Handling η ω) :
    Worker (List (Slot η)) (ServerJob η ω) (ServerEffect η ω) ServerResult
  | .handle command handler, slots => (handle handling slots command handler).done .accepted []
  | .push endpoint observer, slots =>
    let (p, result) := push handling slots endpoint
    p.done (.pushed result) (observation observer result)
  | .stop, slots => ((Progress.start []).drop (slots.map (·.handler))).done .accepted []
  | .count, slots => (Progress.start slots).done (.count slots.length) []

end Window

end PacketTunnel.Ipc
