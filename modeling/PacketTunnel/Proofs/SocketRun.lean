import PacketTunnel.Proofs.ReadLoop
import PacketTunnel.Session.Socket

/-!
# Sessions over sockets in use

A session takes its turns while others write through its handle, until it is cancelled, its handle
is given up or nobody listens to it any more. Here is what happens until then.

A run keeps a record of what the others did: the calls of the handle, how getting a socket ended,
what became of each datagram that the socket was given, and what the socket yielded. What the
session did is put together from the record: a session with a socket serves writes and reads in some
order, and one without fails its writes.
-/

namespace PacketTunnel.Session

variable {κ : Type}

/-- The event that an effect reports. -/
def SocketEffect.event? : SocketEffect κ → Option Event
  | report event => some event
  | _ => none

/-- The datagram that an effect gives to the socket. -/
def SocketEffect.sent? : SocketEffect κ → Option Packet
  | send datagram => some datagram
  | _ => none

/-- The completion that an effect calls, with the result. -/
def SocketEffect.completed? : SocketEffect κ → Option (κ × Except WriteFailure Unit)
  | complete completion result => some (completion, result)
  | _ => none

/-- How getting a socket ends in a turn, if it does. -/
def SocketTurn.connection? : SocketTurn → Option (Except Failure Unit)
  | connect result => some result
  | _ => none

/-- What becomes of a datagram that the socket is given in a turn. -/
def SocketTurn.given? : SocketTurn → SocketEffect κ → Option (Packet × Except Failure Unit)
  | serve result, .send datagram => some (datagram, result)
  | _, _ => none

@[simp] theorem SocketTurn.given?_send (result : Except Failure Unit) (datagram : Packet) :
    (serve result).given? (.send datagram : SocketEffect κ) = some (datagram, result) := rfl

@[simp] theorem SocketTurn.given?_complete (t : SocketTurn) (completion : κ)
    (result : Except WriteFailure Unit) : t.given? (.complete completion result) = none := by
  cases t <;> rfl

@[simp] theorem SocketTurn.given?_report (t : SocketTurn) (event : Event) :
    t.given? (.report event : SocketEffect κ) = none := by
  cases t <;> rfl

/-- What the socket yields in a turn. -/
def SocketTurn.receipts : SocketTurn → List Receipt
  | receive receipts => receipts
  | _ => []

/-- What a session reports on its way to a phase. -/
def Phase.news : Phase → List Event
  | .fresh | .over => []
  | .connecting => [.state .preparing]
  | .connected => [.state .preparing, .state .ready, .viable true]
  | .failed _ => [.state .preparing, .state .failed, .viable false]

namespace Socket

/-- What happens to a session that is in use. -/
inductive Move (κ : Type) where
  /-- Somebody writes a datagram through the handle. -/
  | write (datagram : Packet) (completion : κ)
  /-- The session has a turn. -/
  | turn (turn : SocketTurn)

/-- A session in use and what has happened to it. -/
structure InUse (κ : Type) where
  /-- The session. -/
  socket : Socket κ
  /-- The writes that were asked for, in order. -/
  calls : List (Packet × κ)
  /-- How getting a socket ended, once it did. -/
  connection : Option (Except Failure Unit)
  /-- The datagrams that the socket was given, in order, and what became of each. -/
  given : List (Packet × Except Failure Unit)
  /-- What the socket yielded when the session asked it for datagrams. -/
  yielded : List Receipt
  /-- What the session did. -/
  effects : List (SocketEffect κ)

namespace InUse

/-- A session that was just set up. -/
def start (limit : Nat) : InUse κ := ⟨.start limit, [], none, [], [], []⟩

/-- Make a move. Getting a socket ends while the session waits for that, and a socket is asked for
datagrams while there is one. -/
def move (u : InUse κ) : Move κ → InUse κ
  | .write datagram completion =>
    let (socket, effects) := u.socket.write datagram completion
    { u with
      socket
      calls := u.calls ++ [(datagram, completion)]
      effects := u.effects ++ effects }
  | .turn t =>
    let (socket, effects) := u.socket.step true t
    { socket
      calls := u.calls
      connection := if u.socket.phase = .connecting then t.connection? else u.connection
      given := u.given ++ effects.filterMap t.given?
      yielded := if u.socket.phase = .connected then u.yielded ++ t.receipts else u.yielded
      effects := u.effects ++ effects }

/-- Make moves one after the other. -/
def run (u : InUse κ) (moves : List (Move κ)) : InUse κ := moves.foldl move u

/-- What was reported. -/
def events (u : InUse κ) : List Event := u.effects.filterMap SocketEffect.event?

/-- The completions that were called, with their results. -/
def completions (u : InUse κ) : List (κ × Except WriteFailure Unit) :=
  u.effects.filterMap SocketEffect.completed?

theorem run_cons (u : InUse κ) (m : Move κ) (moves : List (Move κ)) :
    u.run (m :: moves) = (u.move m).run moves := rfl

theorem run_append (u : InUse κ) (moves more : List (Move κ)) :
    u.run (moves ++ more) = (u.run moves).run more := List.foldl_append

/-- Calls and effects that are on record stay there. -/
theorem prefix_move (u : InUse κ) (m : Move κ) :
    u.calls <+: (u.move m).calls ∧ u.effects <+: (u.move m).effects := by
  cases m with
  | write datagram completion => exact ⟨List.prefix_append .., List.prefix_append ..⟩
  | turn t => exact ⟨List.prefix_rfl, List.prefix_append ..⟩

theorem prefix_run (u : InUse κ) (moves : List (Move κ)) :
    u.calls <+: (u.run moves).calls ∧ u.effects <+: (u.run moves).effects := by
  induction moves generalizing u with
  | nil => exact ⟨List.prefix_rfl, List.prefix_rfl⟩
  | cons m moves ih =>
    exact ⟨(u.prefix_move m).1.trans (ih (u.move m)).1, (u.prefix_move m).2.trans (ih (u.move m)).2⟩

end InUse

/-- A write that was served. -/
structure Served (κ : Type) where
  /-- The datagram. -/
  datagram : Packet
  /-- The completion of the write. -/
  completion : κ
  /-- What became of the datagram. -/
  result : Except Failure Unit

namespace Served

/-- The call that asked for the write. -/
def call (w : Served κ) : Packet × κ := (w.datagram, w.completion)

/-- What the socket was given, and what became of it. -/
def given (w : Served κ) : Packet × Except Failure Unit := (w.datagram, w.result)

/-- What the completion hears. -/
def answer (w : Served κ) : κ × Except WriteFailure Unit :=
  (w.completion, w.result.mapError .refused)

end Served

/-- Something that a session with a socket does. -/
inductive Deed (κ : Type) where
  /-- It serves a write. -/
  | served (write : Served κ)
  /-- It takes what the socket yields. -/
  | read (receipts : List Receipt)

namespace Deed

/-- The write that is served. -/
def served? : Deed κ → Option (Served κ)
  | served write => some write
  | read _ => none

/-- What the socket yields. -/
def receipts : Deed κ → List Receipt
  | served _ => []
  | read receipts => receipts

/-- What is done. -/
def effects (limit : Nat) : Deed κ → List (SocketEffect κ)
  | served write =>
    [.send write.datagram, .complete write.completion (write.result.mapError .refused)]
  | read receipts => (Receipt.events limit receipts).map .report

end Deed

/-- The writes that were served, in order. -/
def servedIn (deeds : List (Deed κ)) : List (Served κ) := deeds.filterMap Deed.served?

/-- The stages of a session in use, with what it did up to there. -/
inductive Stage (limit : Nat) : InUse κ → Prop
  /-- It has not run yet. -/
  | fresh (waiting : List (Packet × κ)) :
      Stage limit ⟨⟨limit, .fresh, waiting, false⟩, waiting, none, [], [], []⟩
  /-- It is getting a socket. -/
  | connecting (waiting : List (Packet × κ)) :
      Stage limit ⟨⟨limit, .connecting, waiting, false⟩, waiting, none, [], [],
        Phase.connecting.news.map .report⟩
  /-- It could get no socket, and failed some writes for that reason. -/
  | failed (cause : Failure) (failed waiting : List (Packet × κ)) :
      Stage limit ⟨⟨limit, .failed cause, waiting, false⟩, failed ++ waiting, some (.error cause),
        [], [], (Phase.failed cause).news.map .report ++
          failed.map fun call => .complete call.2 (.error (.unavailable cause.restated))⟩
  /-- It has a socket, and did some things with it. -/
  | connected (deeds : List (Deed κ)) (waiting : List (Packet × κ)) :
      Stage limit ⟨⟨limit, .connected, waiting, false⟩,
        (servedIn deeds).map Served.call ++ waiting, some (.ok ()),
        (servedIn deeds).map Served.given, deeds.flatMap Deed.receipts,
        Phase.connected.news.map .report ++ deeds.flatMap (Deed.effects limit)⟩

theorem stage_start (limit : Nat) : Stage (max limit 1) (InUse.start limit : InUse κ) := .fresh []

/-- A call of the handle is put in line. -/
theorem Stage.write {limit : Nat} {u : InUse κ} (h : Stage limit u) (datagram : Packet)
    (completion : κ) : Stage limit (u.move (.write datagram completion)) := by
  cases h with
  | fresh waiting => exact .fresh (waiting ++ [(datagram, completion)])
  | connecting waiting => exact .connecting (waiting ++ [(datagram, completion)])
  | failed cause done waiting =>
    have hstage : Stage limit _ := .failed cause done (waiting ++ [(datagram, completion)])
    rw [← List.append_assoc] at hstage
    simpa [InUse.move, Socket.write] using hstage
  | connected deeds waiting =>
    have hstage : Stage limit _ := .connected deeds (waiting ++ [(datagram, completion)])
    rw [← List.append_assoc] at hstage
    simpa [InUse.move, Socket.write] using hstage

/-- A turn takes the session to the next stage, or lets it do something where it is. -/
theorem Stage.turn {limit : Nat} {u : InUse κ} (h : Stage limit u) (t : SocketTurn) :
    Stage limit (u.move (.turn t)) := by
  cases h with
  | fresh waiting =>
    cases t with
    | prepare => exact .connecting waiting
    | connect _ | serve _ | receive _ => exact .fresh waiting
  | connecting waiting =>
    cases t with
    | prepare | serve _ | receive _ => exact .connecting waiting
    | connect result =>
      cases result with
      | ok _ => exact .connected [] waiting
      | error cause => exact .failed cause [] waiting
  | failed cause done waiting =>
    cases t with
    | prepare | connect _ | receive _ =>
      simpa [InUse.move, step] using Stage.failed cause done waiting
    | serve result =>
      cases waiting with
      | nil => simpa [InUse.move, step, serveFirst] using Stage.failed cause done []
      | cons call rest =>
        -- The next call fails like those before it.
        have hstage : Stage limit _ := .failed cause (done ++ [call]) rest
        simpa [InUse.move, step, serveFirst] using hstage
  | connected deeds waiting =>
    cases t with
    | prepare | connect _ =>
      simpa [InUse.move, step, SocketTurn.receipts] using Stage.connected deeds waiting
    | serve result =>
      cases waiting with
      | nil =>
        simpa [InUse.move, step, serveFirst, SocketTurn.receipts] using Stage.connected deeds []
      | cons call rest =>
        have hstage : Stage limit _ :=
          .connected (deeds ++ [.served ⟨call.1, call.2, result⟩]) rest
        simpa [InUse.move, step, serveFirst, SocketTurn.receipts, servedIn, Deed.served?,
          Served.call, Served.given, Deed.receipts, Deed.effects] using hstage
    | receive receipts =>
      have hstage : Stage limit _ := .connected (deeds ++ [.read receipts]) waiting
      simpa [InUse.move, step, reportAll, SocketTurn.receipts, servedIn, List.filterMap_cons,
        Deed.served?, Deed.receipts, Deed.effects] using hstage

theorem Stage.move {limit : Nat} {u : InUse κ} (h : Stage limit u) (m : Move κ) :
    Stage limit (u.move m) := by
  cases m with
  | write datagram completion => exact h.write datagram completion
  | turn t => exact h.turn t

/-- At every moment a session in use is at some stage. -/
theorem Stage.run {limit : Nat} {u : InUse κ} (h : Stage limit u) (moves : List (Move κ)) :
    Stage limit (u.run moves) := by
  induction moves generalizing u with
  | nil => exact h
  | cons m moves ih => exact ih (h.move m)

/-- How getting a socket ended does not change any more. -/
theorem Stage.connection_move {limit : Nat} {u : InUse κ} (h : Stage limit u)
    {result : Except Failure Unit} (hconnection : u.connection = some result) (m : Move κ) :
    (u.move m).connection = some result := by
  cases m with
  | write datagram completion => exact hconnection
  | turn t =>
    cases h with
    | fresh | connecting => cases hconnection
    | failed | connected => exact hconnection

theorem Stage.connection_run {limit : Nat} {u : InUse κ} (h : Stage limit u)
    {result : Except Failure Unit} (hconnection : u.connection = some result)
    (moves : List (Move κ)) : (u.run moves).connection = some result := by
  induction moves generalizing u with
  | nil => exact hconnection
  | cons m moves ih => exact ih (h.move m) (h.connection_move hconnection m)

end Socket

end PacketTunnel.Session
