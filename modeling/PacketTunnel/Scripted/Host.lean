import PacketTunnel.Ipc.Client

/-!
# A client on a scripted transport

The transport takes each command as the next of a list of modes says, and holds the reply handler of
a command once the list is used up. Commands are numbered from zero in the order in which they are
sent. After everything that happens the client works off what waits.
-/

namespace PacketTunnel.Scripted

open Ipc

/-- What the transport does with a command. -/
inductive Mode where
  /-- Hold its reply handler. -/
  | hold
  /-- Answer at once. -/
  | answer (data : Option (List UInt8))
  /-- Drop its reply handler. -/
  | drop
  /-- Do not take it. -/
  | fail
  /-- Answer with no data, and do not take it. -/
  | answerFail
  deriving DecidableEq, Repr

/-- What a mode leads to at once. -/
def Mode.sent : Mode → Sent
  | hold => ⟨none, false⟩
  | answer data => ⟨some (.ofBytes data), false⟩
  | drop => ⟨none, false⟩
  | fail => ⟨none, true⟩
  | answerFail => ⟨some .noData, true⟩

/-- The transport. -/
structure Provider where
  /-- The modes of the next commands. -/
  modes : List Mode
  /-- For every command sent, whether its reply handler is held. -/
  held : List Bool
  /-- The actions sent since the last time anybody looked. -/
  sends : List Ipc.Action

/-- Take a command. -/
def Provider.transport : Transport Provider := fun p command =>
  let mode := p.modes.head?.getD .hold
  (⟨p.modes.tail, p.held ++ [decide (mode = .hold)], p.sends ++ [command.action]⟩, mode.sent)

/-- A client with its transport. -/
structure Host where
  /-- The client. -/
  client : Client
  /-- The transport. -/
  provider : Provider
  /-- How many identifiers were drawn. -/
  drawn : Nat
  /-- The events since the last time anybody looked. -/
  events : List ClientEvent

namespace Host

/-- A stopped client on a transport without modes. -/
def fresh (window : Nat) : Host := ⟨.fresh window, ⟨[], [], []⟩, 0, []⟩

/-- An identifier by number. -/
def idOf (n : Nat) : Uuid :=
  ⟨Vector.ofFn fun i => (n >>> (8 * (15 - i.val))).toUInt8⟩

/-- A step of the client: of its task queue if that has anything to do. A task never waits for a
reply, so whatever a refill leads to at once is posted before the replies to it are looked at. -/
def step? (h : Host) : Option Host :=
  match h.client.taskStep? Provider.transport (idOf h.drawn) h.provider with
  | some (client, provider, events) =>
    some { h with client, provider, drawn := h.drawn + 1, events := h.events ++ events }
  | none =>
    h.client.replyStep?.map fun (client, events) =>
      { h with client, events := h.events ++ events }

/-- Let the client take steps until none is left, at most `fuel` of them. -/
def drain : (fuel : Nat) → Host → Host
  | 0, h => h
  | fuel + 1, h =>
    match h.step? with
    | none => h
    | some h => drain fuel h

/-- A bound on how many steps are left: every task and every answer leads to one refill at most, and
every mode to one answer at most. -/
def bound (h : Host) : Nat :=
  (h.client.tasks.length + h.client.replies.length + h.provider.modes.length + 2)
    * (2 * h.client.window + 8) + h.client.refill.getD 0

/-- Work off what waits. -/
def settle (h : Host) : Host := h.drain h.bound

/-- Give the client a task. -/
def post (h : Host) (task : Task) : Host := settle { h with client := h.client.post task }

/-- Set the modes of the next commands. -/
def setModes (h : Host) (modes : List Mode) : Host :=
  { h with provider := { h.provider with modes } }

/-- Let go of a held handler, if it is held. -/
def release? (h : Host) (n : Nat) : Option Host :=
  if h.provider.held[n]?.getD false then
    some { h with provider := { h.provider with held := h.provider.held.set n false } }
  else none

/-- Call a held handler: whether it was held. -/
def reply (h : Host) (n : Nat) (data : Option (List UInt8)) : Host × Bool :=
  match h.release? n with
  | none => (h, false)
  | some h => (settle { h with client := h.client.receive (.ofBytes data) }, true)

/-- Drop a held handler: whether it was held. -/
def dropReply (h : Host) (n : Nat) : Host × Bool :=
  match h.release? n with
  | none => (h, false)
  | some h => (h, true)

/-- Forget what was seen. -/
def look (h : Host) : Host := { h with events := [], provider := { h.provider with sends := [] } }

end Host

end PacketTunnel.Scripted
