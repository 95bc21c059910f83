import PacketTunnel.Proofs.ClientTurn

/-!
# A client on any transport

The transport is a parameter, and its state may change on its own. It answers the commands that it
holds in any order, each of them at most once, or it never does. The client's queues take steps in
any order.
-/

namespace PacketTunnel.Ipc

/-- A command handed to a transport. -/
structure Handed where
  /-- The command. -/
  command : Command Action
  /-- Whether its reply handler is still to be called. -/
  waiting : Bool

/-- A client with its transport, of state `τ`, and the commands handed over so far. -/
structure Exchange (τ : Type) where
  /-- The client. -/
  client : Client
  /-- The state of the transport. -/
  wire : τ
  /-- The commands handed over, the oldest first. -/
  handed : List Handed

/-- Something that happens to a client or its transport, or that the client does on its own. -/
inductive ExchangeStep (τ : Type) where
  /-- The client is told to start. -/
  | start
  /-- The client is told to stop. -/
  | stop
  /-- The state of the transport changes. -/
  | rewire (wire : τ)
  /-- The reply handler of a command is called. -/
  | answer (index : Nat) (answer : Answer)
  /-- The reply handler of a command is dropped without being called. -/
  | drop (index : Nat)
  /-- The client's task queue takes a step. -/
  | task (id : Uuid)
  /-- The client's reply queue takes a step. -/
  | reply

/-- A step that one of the client's queues takes. -/
def ExchangeStep.Own {τ : Type} : ExchangeStep τ → Prop
  | .task _ => True
  | .reply => True
  | _ => False

namespace Exchange

variable {τ : Type}

/-- A stopped client that has handed over nothing. -/
def fresh (window : Nat) (wire : τ) : Exchange τ := ⟨.fresh window, wire, []⟩

/-- The transport, with a record of what is handed to it. -/
def recording (transport : Transport τ) : Transport (τ × List Handed) :=
  fun (wire, handed) command =>
    let (wire, sent) := transport wire command
    ((wire, handed ++ [⟨command, sent.answer.isNone⟩]), sent)

/-- Whether the reply handler of a command is still to be called. -/
def waits (e : Exchange τ) (index : Nat) : Bool := (e.handed[index]?.map (·.waiting)).getD false

/-- Let go of the reply handler of a command. -/
def release (e : Exchange τ) (index : Nat) : Exchange τ :=
  { e with handed := e.handed.modify index fun h => { h with waiting := false } }

/-- Change the client. -/
def withClient (e : Exchange τ) (client : Client) : Exchange τ := { e with client }

/-- Take a step. -/
def step (transport : Transport τ) (e : Exchange τ) :
    ExchangeStep τ → Exchange τ × List ClientEvent
  | .start => (e.withClient (e.client.post .start), [])
  | .stop => (e.withClient (e.client.post .stop), [])
  | .rewire wire => ({ e with wire }, [])
  | .answer index answer =>
    (if e.waits index then (e.release index).withClient (e.client.receive answer) else e, [])
  | .drop index => (e.release index, [])
  | .task id =>
    match e.client.taskStep? (recording transport) id (e.wire, e.handed) with
    | none => (e, [])
    | some (client, (wire, handed), events) => (⟨client, wire, handed⟩, events)
  | .reply =>
    match e.client.replyStep? with
    | none => (e, [])
    | some (client, events) => (e.withClient client, events)

/-- Take steps one after the other. -/
def run (transport : Transport τ) (e : Exchange τ) :
    List (ExchangeStep τ) → Exchange τ × List ClientEvent
  | [] => (e, [])
  | next :: rest =>
    let (e, events) := e.step transport next
    let (e, more) := e.run transport rest
    (e, events ++ more)

/-- A client that has nothing to do leaves everything as it is. -/
theorem step_task_none {transport : Transport τ} {e : Exchange τ} {id : Uuid}
    (h : e.client.taskStep? (recording transport) id (e.wire, e.handed) = none) :
    e.step transport (.task id) = (e, []) := by
  rw [step, h]

/-- A step of the client's task queue changes the transport and what was handed over as well. -/
theorem step_task_some {transport : Transport τ} {e : Exchange τ} {id : Uuid} {client : Client}
    {wire : τ} {handed : List Handed} {events : List ClientEvent}
    (h : e.client.taskStep? (recording transport) id (e.wire, e.handed) =
      some (client, (wire, handed), events)) :
    e.step transport (.task id) = (⟨client, wire, handed⟩, events) := by
  rw [step, h]

theorem step_reply_none {transport : Transport τ} {e : Exchange τ}
    (h : e.client.replyStep? = none) : e.step transport .reply = (e, []) := by
  rw [step, h]

/-- A step of the client's reply queue changes the client alone. -/
theorem step_reply_some {transport : Transport τ} {e : Exchange τ} {client : Client}
    {events : List ClientEvent} (h : e.client.replyStep? = some (client, events)) :
    e.step transport .reply = (e.withClient client, events) := by
  rw [step, h]

theorem run_cons (transport : Transport τ) (e : Exchange τ) (next : ExchangeStep τ)
    (rest : List (ExchangeStep τ)) : e.run transport (next :: rest) =
      (((e.step transport next).1.run transport rest).1,
        (e.step transport next).2 ++ ((e.step transport next).1.run transport rest).2) := rfl

end Exchange

end PacketTunnel.Ipc
