import PacketTunnel.Ipc.SerialQueue

/-!
# A serial queue of lists

A worker whose state is a list of numbers. A gate keeps the worker from taking messages; while it is
open, everything that was posted is worked off before anything else happens.
-/

namespace PacketTunnel.Scripted

open Ipc

/-- A job on a list of numbers. -/
inductive ListJob where
  /-- Put a number at the end. -/
  | push (n : Int)
  /-- Take the last number off. -/
  | pop
  /-- Put a number at the end, and post a job that does the same with its negation. -/
  | pushLater (n : Int)
  /-- Put a number at the end, then break off. -/
  | pushFail (n : Int)
  /-- Look at the numbers. -/
  | read
  /-- Add up the numbers. -/
  | sum
  /-- Break off. -/
  | fail
  /-- Wait for the gate. -/
  | wait
  deriving DecidableEq, Repr

/-- The result of a job. -/
inductive ListResult where
  /-- Nothing to tell. -/
  | done
  /-- The numbers. -/
  | numbers (l : List Int)
  /-- Their sum. -/
  | sum (n : Int)
  deriving DecidableEq, Repr

/-- What the jobs do; their surroundings see nothing of it. -/
def listWorker : Worker (List Int) ListJob Empty ListResult
  | .push n, l => ⟨l ++ [n], [], [], some .done⟩
  | .pop, l => ⟨l.dropLast, [], [], some .done⟩
  | .pushLater n, l => ⟨l ++ [n], [], [.push (-n)], some .done⟩
  | .pushFail n, l => ⟨l ++ [n], [], [], none⟩
  | .read, l => ⟨l, [], [], some (.numbers l)⟩
  | .sum, l => ⟨l, [], [], some (.sum (l.foldl (· + ·) 0))⟩
  | .fail, l => ⟨l, [], [], none⟩
  | .wait, l => ⟨l, [], [], some .done⟩

/-- A queue with a gate. -/
structure Gated where
  /-- The queue. -/
  queue : SerialQueue (List Int) ListJob
  /-- Whether the gate is open. -/
  isOpen : Bool

namespace Gated

/-- A queue with an open gate. -/
def fresh (l : List Int) : Gated := ⟨.fresh l, true⟩

/-- Work off what was posted, if the gate is open. A job posts at most one other, which posts none,
so twice the messages bound the steps. -/
def settle (g : Gated) : Gated × List (Outcome ListResult) :=
  if g.isOpen then
    let (queue, _, outcomes) := g.queue.drain listWorker (2 * g.queue.channel.length)
    ({ g with queue }, outcomes)
  else (g, [])

/-- Post a job without waiting for it. -/
def post (g : Gated) (job : ListJob) : Gated × Except Error Unit :=
  match g.queue.post job with
  | .error e => (g, .error e)
  | .ok (queue, _) => ((settle { g with queue }).1, .ok ())

/-- Post a job and wait for its result. -/
def query (g : Gated) (job : ListJob) : Gated × Except Error ListResult :=
  match g.queue.post job with
  | .error e => (g, .error e)
  | .ok (queue, ticket) =>
    let (g, outcomes) := settle { g with queue }
    (g, SerialQueue.resultOf ticket outcomes)

/-- Close the gate, with a job that waits for it. -/
def close (g : Gated) : Gated × Except Error Unit :=
  match g.queue.post .wait with
  | .error e => (g, .error e)
  | .ok (queue, _) => ({ queue, isOpen := false }, .ok ())

/-- Open the gate. -/
def open_ (g : Gated) : Gated := (settle { g with isOpen := true }).1

/-- Ask the worker to stop. -/
def shutdown (g : Gated) : Gated := (settle { g with queue := g.queue.shutdown }).1

end Gated

end PacketTunnel.Scripted
