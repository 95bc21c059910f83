import PacketTunnel.Proofs.DirectSystem

/-!
# What a run leaves on record

Somebody who looks at each step of a run sees which jobs the server runs, with the window that each
one finds, and which commands the clients send. The record of a push says where it goes and how it
ends; the record of a system is that of the direct system.
-/

namespace PacketTunnel.Ipc

variable {ω : Type}

/-- What somebody sees who looks at every step of a run just before it is taken. -/
def watch {σ α : Type} (step : σ → SystemStep ω → σ × List (SystemOutput ω))
    (look : σ → SystemStep ω → List α) (s : σ) : List (SystemStep ω) → List α
  | [] => []
  | next :: rest => look s next ++ watch step look (step s next).1 rest

/-- A job that the server runs, with the window that the job finds. -/
structure Serving (ω : Type) where
  /-- The job. -/
  job : ServerJob Nat ω
  /-- The slots, the oldest first. -/
  window : List (Slot Nat)

/-- The slot that a command keeps open for its client. -/
def slotOf : Nat × Command Action → Option (Slot Nat)
  | (client, command) => if command.action = .fillBuffer then some ⟨command, client⟩ else none

namespace ServerJob

/-- The slot that a job keeps open. -/
def slot? : ServerJob Nat ω → Option (Slot Nat)
  | .handle command client => slotOf (client, command)
  | _ => none

/-- The push that a job runs. -/
def push? : ServerJob Nat ω → Option (String × Option ω)
  | .push endpoint observer => some (endpoint, observer)
  | _ => none

end ServerJob

namespace Serving

/-- A push that finds a slot goes to the client that the oldest one belongs to. -/
def delivery? : Serving ω → Option (Nat × String)
  | ⟨.push endpoint _, slot :: _⟩ => some (slot.handler, endpoint)
  | _ => none

/-- A push succeeds if it finds a slot. -/
def outcome? : Serving ω → Option (ω × Except Error Unit)
  | ⟨.push _ (some name), window⟩ =>
    some (name, if window.isEmpty then .error .bufferUnderflow else .ok ())
  | _ => none

end Serving

namespace SystemOutput

/-- A reconnect that a client has told the host. -/
def reconnect? : SystemOutput ω → Option (Nat × String)
  | .event client (.reconnected endpoint) => some (client, endpoint)
  | _ => none

/-- How a push has ended. -/
def outcome? : SystemOutput ω → Option (ω × Except Error Unit)
  | .pushed name result => some (name, result)
  | _ => none

/-- An action that a client has sent. -/
def sent? (id : Uuid) : SystemOutput ω → Option (Nat × Command Action)
  | .sent client action => some (client, ⟨id, action⟩)
  | _ => none

end SystemOutput

namespace SystemStep

/-- The push that a step posts. -/
def push? : SystemStep ω → Option (String × Option ω)
  | .push name endpoint => some (endpoint, some name)
  | _ => none

/-- The commands among the outputs of a step, each with the client that sent it. -/
def sent (output : List (SystemOutput ω)) : SystemStep ω → List (Nat × Command Action)
  | .task _ id => output.filterMap (SystemOutput.sent? id)
  | _ => []

end SystemStep

/-- What is meant for one client. -/
def addressed (client : Nat) (l : List (Nat × String)) : List String :=
  l.filterMap fun (receiver, endpoint) => if receiver = client then some endpoint else none

/-- The reconnects among the replies that a client has not looked at. -/
def awaited (links : List Link) (client : Nat) : List String :=
  ((links[client]?.map (·.client.replies)).getD []).filterMap Reply.endpoint?

namespace System

/-- The job that the server runs in a step. -/
def serves (s : System ω) : SystemStep ω → List (Serving ω)
  | .serve _ => (s.server.jobs.head?.map (⟨·, s.server.state⟩)).toList
  | _ => []

/-- The jobs that the server runs. -/
def served : System ω → List (SystemStep ω) → List (Serving ω) := watch step serves

/-- The commands that clients send, each with the client. -/
def sent : System ω → List (SystemStep ω) → List (Nat × Command Action) :=
  watch step fun s next => next.sent (s.step next).2

end System

namespace Direct

/-- The job that the server runs in a step. -/
def serves (d : Direct ω) : SystemStep ω → List (Serving ω)
  | .serve _ => (d.jobs.head?.map (⟨·, d.slots⟩)).toList
  | _ => []

/-- The jobs that the server runs. -/
def served : Direct ω → List (SystemStep ω) → List (Serving ω) := watch step serves

/-- The commands that clients send, each with the client. -/
def sent : Direct ω → List (SystemStep ω) → List (Nat × Command Action) :=
  watch step fun d next => next.sent (d.step next).2

theorem sent_cons (d : Direct ω) (x : SystemStep ω) (rest : List (SystemStep ω)) :
    d.sent (x :: rest) = x.sent (d.step x).2 ++ (d.step x).1.sent rest := rfl

theorem sent_append (d : Direct ω) (steps more : List (SystemStep ω)) :
    d.sent (steps ++ more) = d.sent steps ++ (d.run steps).1.sent more := by
  induction steps generalizing d with
  | nil => rfl
  | cons x rest ih => rw [List.cons_append, sent_cons, sent_cons, ih, run_cons, List.append_assoc]

theorem serves_of_nil {d : Direct ω} (h : d.jobs = []) (id : Uuid) :
    d.serves (.serve id) = [] := by
  rw [serves, h]
  rfl

/-- The server runs the oldest job, on the window as it is. -/
theorem serves_of_cons {d : Direct ω} {job : ServerJob Nat ω} {rest : List (ServerJob Nat ω)}
    (h : d.jobs = job :: rest) (id : Uuid) : d.serves (.serve id) = [⟨job, d.slots⟩] := by
  rw [serves, h]
  rfl

end Direct

/-- Somebody who only sees what the direct system has too sees the same in both. -/
theorem watch_direct {α : Type} {look : System ω → SystemStep ω → List α}
    {lookDirect : Direct ω → SystemStep ω → List α}
    (hlook : ∀ s : System ω, s.server.Running → ∀ x, look s x = lookDirect s.direct x)
    {s : System ω} (h : s.server.Running) (steps : List (SystemStep ω)) :
    watch System.step look s steps = watch Direct.step lookDirect s.direct steps := by
  induction steps generalizing s with
  | nil => rfl
  | cons next rest ih =>
    obtain ⟨hrunning, hnext⟩ := System.step_direct h next
    rw [watch, watch, hlook s h, ih hrunning, ← hnext]

theorem served_direct {s : System ω} (h : s.server.Running) (steps : List (SystemStep ω)) :
    s.served steps = s.direct.served steps := by
  refine watch_direct (fun s _ x => ?_) h steps
  cases x <;> rfl

theorem sent_direct {s : System ω} (h : s.server.Running) (steps : List (SystemStep ω)) :
    s.sent steps = s.direct.sent steps := by
  refine watch_direct (fun s h x => ?_) h steps
  rw [← (System.step_direct h x).2]

end PacketTunnel.Ipc
