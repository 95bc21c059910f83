import PacketTunnel.Session.Event
import PacketTunnel.SystemError

/-!
# Receiving datagrams

A socket is asked for datagrams one by one: it yields a datagram, or nothing because none is there
yet, or a failure. Datagrams that are there together are reported together, up to a limit. A failure
ends the batch that is being gathered but does not take away from it; it is reported first.
-/

namespace PacketTunnel.Session

/-- What a socket yields when it is asked for a datagram. -/
inductive Receipt where
  /-- A datagram. -/
  | datagram (datagram : Packet)
  /-- Nothing is there yet. -/
  | nothing
  /-- Receiving failed. -/
  | failure (cause : Failure)
  deriving DecidableEq, Repr

namespace Receipt

/-- What follows the first datagram of a batch. -/
structure Gathered where
  /-- The datagrams. -/
  datagrams : List Packet
  /-- The failure that ended the batch, if one did. -/
  failure : Option Failure
  /-- What the socket yields after that. -/
  rest : List Receipt
  deriving DecidableEq, Repr

/-- Gather datagrams until the room is used up or something else comes. -/
def gather : (room : Nat) → List Receipt → Gathered
  | 0, rest => ⟨[], none, rest⟩
  | _ + 1, [] => ⟨[], none, []⟩
  | room + 1, .datagram packet :: rest =>
    let more := gather room rest
    ⟨packet :: more.datagrams, more.failure, more.rest⟩
  | _ + 1, .nothing :: rest => ⟨[], none, rest⟩
  | _ + 1, .failure cause :: rest => ⟨[], some cause, rest⟩

/-- Gathering uses up what it looks at. -/
theorem length_gather_rest_le (room : Nat) (receipts : List Receipt) :
    (gather room receipts).rest.length ≤ receipts.length := by
  fun_induction gather room receipts with
  | case1 => exact Nat.le_refl _
  | case2 => exact Nat.le_refl _
  | case3 room _ rest more ih =>
    simp only [List.length_cons]
    exact Nat.le_succ_of_le ih
  | case4 => exact Nat.le_succ _
  | case5 => exact Nat.le_succ _

/-- The report of a failure. -/
def report (cause : Failure) : Event := .readError cause.message

/-- What is reported when batches have at most `limit` datagrams, and at least one. -/
def events (limit : Nat) : (receipts : List Receipt) → List Event
  | [] => []
  | .nothing :: rest => events limit rest
  | .failure cause :: rest => report cause :: events limit rest
  | .datagram packet :: rest =>
    let more := gather (limit - 1) rest
    more.failure.toList.map report
      ++ .datagrams (packet :: more.datagrams) :: events limit more.rest
termination_by receipts => receipts.length
decreasing_by
  · simp only [List.length_cons]
    omega
  · simp only [List.length_cons]
    omega
  · have := length_gather_rest_le (limit - 1) rest
    simp only [List.length_cons]
    omega

end Receipt

end PacketTunnel.Session
