import PacketTunnel.Ipc.Error

/-!
# Serial queues

A worker owns a state and runs jobs on it one at a time, in the order in which they were posted. A
job may post further jobs to the same queue; they take their place behind everything posted before.
A job that breaks off keeps what it had done so far and does not take the worker with it. This is so
only where a program unwinds from a panic: built to abort on panics, as a release build is, it ends
with the first job that breaks off, and nothing here applies any more. A shutdown stands in the
channel like a job: the worker stops when it gets there, and whatever is behind it never runs.

What a job does is a parameter, so nothing is said here about states and jobs. Every message has a
ticket, and each ticket gets one outcome: the job's result, or the news that it is not to be had.
-/

namespace PacketTunnel.Ipc

/-- What running a job leads to. -/
structure Done (σ ι ε ρ : Type) where
  /-- The state afterwards. -/
  state : σ
  /-- What the job did to its surroundings, in order. -/
  effects : List ε
  /-- The jobs that it posted, in order. -/
  posted : List ι
  /-- Its result, unless it broke off. -/
  result : Option ρ

/-- What jobs do. -/
abbrev Worker (σ ι ε ρ : Type) := ι → σ → Done σ ι ε ρ

/-- Something in the channel of a queue. -/
inductive Posted (ι : Type) where
  /-- A job to run. -/
  | run (ticket : Nat) (job : ι)
  /-- The end of the worker. -/
  | shutdown
  deriving DecidableEq, Repr

/-- A ticket with its outcome. -/
structure Outcome (ρ : Type) where
  /-- The ticket. -/
  ticket : Nat
  /-- The result of the job, or why there is none. -/
  result : Except Error ρ

/-- A queue with its worker. -/
structure SerialQueue (σ ι : Type) where
  /-- The state that the worker owns. -/
  state : σ
  /-- What was posted and not yet taken, the oldest first. -/
  channel : List (Posted ι)
  /-- The next ticket. -/
  nextTicket : Nat
  /-- Whether the worker has stopped. -/
  stopped : Bool

namespace SerialQueue

variable {σ ι ε ρ : Type}

/-- A queue that nothing was posted to. -/
def fresh (state : σ) : SerialQueue σ ι := ⟨state, [], 0, false⟩

/-- Put a job at the end of the channel. -/
def push (q : SerialQueue σ ι) (job : ι) : SerialQueue σ ι :=
  { q with channel := q.channel ++ [.run q.nextTicket job], nextTicket := q.nextTicket + 1 }

/-- Post a job; a worker that has stopped takes none. The number is the ticket of the job. -/
def post (q : SerialQueue σ ι) (job : ι) : Except Error (SerialQueue σ ι × Nat) :=
  if q.stopped then .error .queueClosed else .ok (q.push job, q.nextTicket)

/-- Ask the worker to stop once it has run what was posted before. -/
def shutdown (q : SerialQueue σ ι) : SerialQueue σ ι :=
  if q.stopped then q else { q with channel := q.channel ++ [.shutdown] }

/-- The outcome of a job that never runs. -/
def abandon : Posted ι → Option (Outcome ρ)
  | .run ticket _ => some ⟨ticket, .error .queueClosed⟩
  | .shutdown => none

/-- The outcome of a job that was run. -/
def outcomeOf (ticket : Nat) : Option ρ → Outcome ρ
  | some result => ⟨ticket, .ok result⟩
  | none => ⟨ticket, .error .queueClosed⟩

/-- Let the worker take the oldest message, if there is one. -/
def step? (w : Worker σ ι ε ρ) (q : SerialQueue σ ι) :
    Option (SerialQueue σ ι × List ε × List (Outcome ρ)) :=
  match q.channel with
  | [] => none
  | .shutdown :: rest =>
    some ({ q with channel := [], stopped := true }, [], rest.filterMap abandon)
  | .run ticket job :: rest =>
    let done := w job q.state
    some (done.posted.foldl push { q with state := done.state, channel := rest },
      done.effects, [outcomeOf ticket done.result])

/-- Let the worker take messages until none is left, at most `fuel` of them. -/
def drain (w : Worker σ ι ε ρ) : (fuel : Nat) → SerialQueue σ ι →
    SerialQueue σ ι × List ε × List (Outcome ρ)
  | 0, q => (q, [], [])
  | fuel + 1, q =>
    match q.step? w with
    | none => (q, [], [])
    | some (q, effects, outcomes) =>
      let (q, moreEffects, moreOutcomes) := drain w fuel q
      (q, effects ++ moreEffects, outcomes ++ moreOutcomes)

/-- The outcome of a ticket, as far as it is known; without one there is no result to be had. -/
def resultOf (ticket : Nat) (outcomes : List (Outcome ρ)) : Except Error ρ :=
  match outcomes.find? (·.ticket = ticket) with
  | some outcome => outcome.result
  | none => .error .queueClosed

end SerialQueue

end PacketTunnel.Ipc
