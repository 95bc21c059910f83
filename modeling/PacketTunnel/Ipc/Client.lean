import PacketTunnel.Ipc.Codec

/-!
# The client

The client runs on the host. It starts the server, keeps the server's window filled, and turns what
the server says into events. It has two queues: one of tasks that change its phase and send
commands, and one of replies that wait to be looked at.

A refill sends its commands one by one, and others may do something between two of them. The steps
here are that small: a step of the task queue begins a task or sends one command of the refill at
hand. The transport is a parameter with a state of its own.
-/

namespace PacketTunnel.Ipc

/-- Where a client stands. -/
inductive Phase where
  /-- Nothing is going on. -/
  | stopped
  /-- The server was asked to start over. -/
  | waitingForServerStart
  /-- The window is being filled. -/
  | fillingServerBuffer
  /-- The window was filled. -/
  | standby
  deriving DecidableEq, Repr

/-- What a client tells the host. -/
inductive ClientEvent where
  /-- The tunnel has reconnected to an endpoint. -/
  | reconnected (endpoint : String)
  /-- The window was filled with so many commands. -/
  | bufferFilled (commands : Nat)
  /-- The server is gone, and the client is stopped. -/
  | serverGone
  deriving DecidableEq, Repr

/-- What a reply handler is called with. -/
inductive Answer where
  /-- No data: the server is gone. -/
  | noData
  /-- A reply. -/
  | reply (reply : Reply)
  /-- Data that are no reply. -/
  | unreadable
  deriving DecidableEq, Repr

/-- The answer that data stand for. -/
def Answer.ofBytes : Option (List UInt8) → Answer
  | none => .noData
  | some bytes =>
    match Reply.form.decode bytes with
    | .ok c => .reply c.action
    | .error _ => .unreadable

/-- What sending a command leads to at once. -/
structure Sent where
  /-- The answer, if the transport gives it at once. -/
  answer : Option Answer
  /-- Whether the transport did not take the command. -/
  failed : Bool
  deriving DecidableEq, Repr

/-- A transport of state `τ`. -/
abbrev Transport (τ : Type) := τ → Command Action → τ × Sent

/-- A task of a client. -/
inductive Task where
  /-- Start the server, unless something is going on already. -/
  | start
  /-- Stop. -/
  | stop
  /-- Fill the window of a server that has started. -/
  | serverDidStart
  /-- Fill the window again. -/
  | needBuffer
  /-- Stop because the server is gone. -/
  | serverGone
  deriving DecidableEq, Repr

/-- A client. -/
structure Client where
  /-- Where the client stands. -/
  phase : Phase
  /-- How many commands a refill sends. -/
  window : Nat
  /-- How many commands the refill at hand still has to send. -/
  refill : Option Nat
  /-- Tasks that wait, the oldest first. -/
  tasks : List Task
  /-- Replies that wait, the oldest first. -/
  replies : List Reply
  deriving DecidableEq, Repr

namespace Client

variable {τ : Type}

/-- A stopped client. -/
def fresh (window : Nat) : Client := ⟨.stopped, window, none, [], []⟩

/-- Post a task. -/
def post (c : Client) (task : Task) : Client := { c with tasks := c.tasks ++ [task] }

/-- Take an answer to a command. -/
def receive (c : Client) : Answer → Client
  | .noData => c.post .serverGone
  | .reply reply => { c with replies := c.replies ++ [reply] }
  | .unreadable => c

/-- Stop because the server is gone, unless stopped already. -/
def lose (c : Client) : Client × List ClientEvent :=
  if c.phase = .stopped then (c, []) else ({ c with phase := .stopped }, [.serverGone])

/-- Send an action under an identifier; a failure counts as the loss of the server. -/
def send (transport : Transport τ) (id : Uuid) (action : Action) (c : Client) (t : τ) :
    Client × τ × List ClientEvent :=
  let (t, sent) := transport t ⟨id, action⟩
  let c := match sent.answer with
    | some answer => c.receive answer
    | none => c
  if sent.failed then
    let (c, events) := c.lose
    (c, t, events)
  else (c, t, [])

/-- Begin to fill the window. -/
def beginRefill (c : Client) : Client :=
  { c with phase := .fillingServerBuffer, refill := some c.window }

/-- Begin a task. -/
def begin_ (transport : Transport τ) (id : Uuid) (c : Client) (t : τ) :
    Task → Client × τ × List ClientEvent
  | .start =>
    if c.phase = .stopped then
      send transport id .start { c with phase := .waitingForServerStart } t
    else (c, t, [])
  | .stop => ({ c with phase := .stopped }, t, [])
  | .serverDidStart =>
    if c.phase = .waitingForServerStart then (c.beginRefill, t, []) else (c, t, [])
  | .needBuffer => if c.phase = .stopped then (c, t, []) else (c.beginRefill, t, [])
  | .serverGone =>
    let (c, events) := c.lose
    (c, t, events)

/-- Send one command of the refill at hand, of which `left` more are to follow. A refill ends when
the server is lost. -/
def sendOne (transport : Transport τ) (id : Uuid) (left : Nat) (c : Client) (t : τ) :
    Client × τ × List ClientEvent :=
  let (c, t, events) := send transport id .fillBuffer c t
  ({ c with refill := if c.phase = .stopped then none else some left }, t, events)

/-- A step of the task queue: go on with the refill at hand, or begin the oldest task. An identifier
is used up if the step sends a command. -/
def taskStep? (transport : Transport τ) (id : Uuid) (c : Client) (t : τ) :
    Option (Client × τ × List ClientEvent) :=
  match c.refill, c.tasks with
  | some 0, _ => some ({ c with phase := .standby, refill := none }, t, [.bufferFilled c.window])
  | some (left + 1), _ => some (sendOne transport id left c t)
  | none, task :: rest => some (begin_ transport id { c with tasks := rest } t task)
  | none, [] => none

/-- A step of the reply queue: look at the oldest reply. -/
def replyStep? (c : Client) : Option (Client × List ClientEvent) :=
  match c.replies with
  | [] => none
  | .serverStarted :: rest => some ({ c with replies := rest }.post .serverDidStart, [])
  | .needBuffer :: rest => some ({ c with replies := rest }.post .needBuffer, [])
  | .reconnected endpoint :: rest => some ({ c with replies := rest }, [.reconnected endpoint])

end Client

end PacketTunnel.Ipc
