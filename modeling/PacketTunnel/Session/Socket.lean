import PacketTunnel.Session.Receipt

/-!
# Sessions over sockets

A session over a socket of its own. Datagrams to be written wait in line until there is a socket and
go out in order; what comes in is reported. If no socket can be had, every write fails for that
reason, until the session is cancelled.

The handle of the session and the session itself run apart: writes are put in line and an end is
asked for at any time, and the session takes notice when it has its next turn. What the network does
in a turn is part of the turn.
-/

namespace PacketTunnel.Session

/-- Why a write failed. -/
inductive WriteFailure where
  /-- The session is over. -/
  | notConnected
  /-- No socket could be had. -/
  | unavailable (cause : Failure)
  /-- The socket did not take the datagram. -/
  | refused (cause : Failure)
  deriving DecidableEq, Repr

/-- The text of a failure to write. -/
def WriteFailure.message : WriteFailure → String
  | notConnected => "not connected"
  | unavailable cause => cause.message
  | refused cause => cause.message

/-- The kind of a failure to write. -/
def WriteFailure.kind : WriteFailure → FailureKind
  | notConnected => .notConnected
  | unavailable cause => cause.kind
  | refused cause => cause.kind

/-- How far a session has come. -/
inductive Phase where
  /-- It has not run yet. -/
  | fresh
  /-- It is getting a socket. -/
  | connecting
  /-- It has a socket. -/
  | connected
  /-- It could get no socket. -/
  | failed (cause : Failure)
  /-- It is over. -/
  | over
  deriving DecidableEq, Repr

/-- A session over a socket. `κ` names the completions of writes. -/
structure Socket (κ : Type) where
  /-- The most datagrams of one report. -/
  limit : Nat
  /-- How far it has come. -/
  phase : Phase
  /-- The writes in line. -/
  waiting : List (Packet × κ)
  /-- Whether it was told to end. -/
  ending : Bool
  deriving DecidableEq, Repr

/-- What a session does. -/
inductive SocketEffect (κ : Type) where
  /-- Report an event. -/
  | report (event : Event)
  /-- Give a datagram to the socket. -/
  | send (datagram : Packet)
  /-- Call the completion of a write. -/
  | complete (completion : κ) (result : Except WriteFailure Unit)

/-- A turn of a session, with what the network does in it. -/
inductive SocketTurn where
  /-- Begin to get a socket. -/
  | prepare
  /-- Getting a socket ends. -/
  | connect (result : Except Failure Unit)
  /-- The first write in line is served; the result is what giving it to a socket would end with. -/
  | serve (result : Except Failure Unit)
  /-- The socket yields something. -/
  | receive (receipts : List Receipt)

namespace Socket

variable {κ : Type}

/-- The most datagrams of one report, unless another limit is asked for. -/
def defaultLimit : Nat := 2000

/-- A session whose reports have at most so many datagrams; none at all counts as one. -/
def start (limit : Nat) : Socket κ := ⟨max limit 1, .fresh, [], false⟩

/-- Write a datagram through the handle. -/
def write (s : Socket κ) (datagram : Packet) (completion : κ) : Socket κ × List (SocketEffect κ) :=
  if s.phase = .over then (s, [.complete completion (.error .notConnected)])
  else ({ s with waiting := s.waiting ++ [(datagram, completion)] }, [])

/-- Cancel the session through the handle. A session that is over has nothing to report. -/
def cancel (s : Socket κ) : Socket κ × List (SocketEffect κ) :=
  if s.phase = .over then (s, []) else ({ s with ending := true }, [.report (.state .cancelled)])

/-- Give the handle up. -/
def release (s : Socket κ) : Socket κ := { s with ending := true }

/-- End the session. Writes in line are given up with their completions. -/
def finish (s : Socket κ) : Socket κ := { s with phase := .over, waiting := [] }

/-- Serve the first write in line. -/
def serveFirst (s : Socket κ) (answer : Packet → κ → List (SocketEffect κ)) :
    Socket κ × List (SocketEffect κ) :=
  match s.waiting with
  | [] => (s, [])
  | (datagram, completion) :: rest => ({ s with waiting := rest }, answer datagram completion)

/-- Report what came in. Once nobody listens any more there is no use in going on. -/
def reportAll (s : Socket κ) (listened : Bool) (events : List Event) :
    Socket κ × List (SocketEffect κ) :=
  if !listened ∧ !events.isEmpty then (s.finish, []) else (s, events.map .report)

/-- A turn of the session. One that was told to end does so instead. -/
def step (s : Socket κ) (listened : Bool) (turn : SocketTurn) : Socket κ × List (SocketEffect κ) :=
  if s.ending then (s.finish, [])
  else match s.phase, turn with
    | .fresh, .prepare => ({ s with phase := .connecting }, [.report (.state .preparing)])
    | .connecting, .connect (.ok ()) =>
      ({ s with phase := .connected }, [.report (.state .ready), .report (.viable true)])
    | .connecting, .connect (.error cause) =>
      ({ s with phase := .failed cause }, [.report (.state .failed), .report (.viable false)])
    | .connected, .serve result =>
      s.serveFirst fun datagram completion =>
        [.send datagram, .complete completion (result.mapError .refused)]
    | .failed cause, .serve _ =>
      -- each write has a failure of its own, with the kind and the text of the first
      s.serveFirst fun _ completion => [.complete completion (.error (.unavailable cause.restated))]
    | .connected, .receive receipts => s.reportAll listened (Receipt.events s.limit receipts)
    | _, _ => (s, [])

/-- Turns one after the other. -/
def run (s : Socket κ) (listened : Bool) : List SocketTurn → Socket κ × List (SocketEffect κ)
  | [] => (s, [])
  | turn :: rest =>
    let (s, effects) := s.step listened turn
    let (s, more) := s.run listened rest
    (s, effects ++ more)

end Socket

end PacketTunnel.Session
