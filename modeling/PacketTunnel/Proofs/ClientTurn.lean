import PacketTunnel.Ipc.Client

/-!
# Steps of a client

A step of the task queue does one of seven things. Which one follows from the refill at hand, the
oldest task and the phase; the transport only matters where the step sends a command. Replies wait
untouched. A step of the reply queue posts the task that the oldest reply stands for, or tells of
the reconnect in it.
-/

namespace PacketTunnel.Ipc

/-- The phases in which a task does nothing. -/
def Task.Idle : Task → Phase → Prop
  | .start, phase => phase ≠ .stopped
  | .stop, _ => False
  | .serverDidStart, phase => phase ≠ .waitingForServerStart
  | .needBuffer, phase => phase = .stopped
  | .serverGone, phase => phase = .stopped

instance : (task : Task) → (phase : Phase) → Decidable (task.Idle phase)
  | .start, phase => inferInstanceAs (Decidable (phase ≠ .stopped))
  | .stop, _ => inferInstanceAs (Decidable False)
  | .serverDidStart, phase => inferInstanceAs (Decidable (phase ≠ .waitingForServerStart))
  | .needBuffer, phase => inferInstanceAs (Decidable (phase = .stopped))
  | .serverGone, phase => inferInstanceAs (Decidable (phase = .stopped))

/-- Whether a task asks for the window to be filled. -/
def Task.Fills (task : Task) : Prop := task = .serverDidStart ∨ task = .needBuffer

/-- The task that a reply stands for. -/
def Reply.task? : Reply → Option Task
  | .serverStarted => some .serverDidStart
  | .needBuffer => some .needBuffer
  | .reconnected _ => none

/-- The endpoint that a reply tells of. -/
def Reply.endpoint? : Reply → Option String
  | .reconnected endpoint => some endpoint
  | _ => none

/-- The transport of a client that is handed commands as they are: it collects what it is given, and
answers with no data if it leads nowhere. -/
def relay (connected : Bool) : Transport (List (Command Action)) := fun sent command =>
  (sent ++ [command], ⟨if connected then none else some .noData, false⟩)

namespace Client

variable {τ : Type}

theorem taskStep?_zero {transport : Transport τ} {id : Uuid} {c : Client} {t : τ}
    (h : c.refill = some 0) : c.taskStep? transport id t =
      some ({ c with phase := .standby, refill := none }, t, [.bufferFilled c.window]) := by
  rw [taskStep?, h]

theorem taskStep?_succ {transport : Transport τ} {id : Uuid} {c : Client} {t : τ} {left : Nat}
    (h : c.refill = some (left + 1)) :
    c.taskStep? transport id t = some (sendOne transport id left c t) := by
  rw [taskStep?, h]

theorem taskStep?_cons {transport : Transport τ} {id : Uuid} {c : Client} {t : τ} {task : Task}
    {rest : List Task} (h : c.refill = none) (htasks : c.tasks = task :: rest) :
    c.taskStep? transport id t = some (begin_ transport id { c with tasks := rest } t task) := by
  rw [taskStep?, h, htasks]

theorem taskStep?_nil {transport : Transport τ} {id : Uuid} {c : Client} {t : τ}
    (h : c.refill = none) (htasks : c.tasks = []) : c.taskStep? transport id t = none := by
  rw [taskStep?, h, htasks]

theorem refill_cases (c : Client) :
    c.refill = none ∨ c.refill = some 0 ∨ ∃ left, c.refill = some (left + 1) := by
  rcases c.refill with _ | _ | left
  · exact .inl rfl
  · exact .inr (.inl rfl)
  · exact .inr (.inr ⟨left, rfl⟩)

/-- A step of the reply queue turns the oldest reply into a task or an event. -/
theorem replyStep?_cons {c : Client} {reply : Reply} {rest : List Reply}
    (h : c.replies = reply :: rest) : c.replyStep? =
      some ({ c with replies := rest, tasks := c.tasks ++ reply.task?.toList },
        (reply.endpoint?.map .reconnected).toList) := by
  rw [replyStep?, h]
  cases reply with
  | serverStarted => rfl
  | needBuffer => rfl
  | reconnected endpoint =>
    simp only [Reply.task?, Reply.endpoint?, Option.toList_none, List.append_nil]
    rfl

theorem replyStep?_nil {c : Client} (h : c.replies = []) : c.replyStep? = none := by
  rw [replyStep?, h]

/-- A client whose command has no answer yet, or was answered with no data. -/
def ask (connected : Bool) (c : Client) : Client :=
  if connected then c else c.post .serverGone

@[simp] theorem refill_ask (connected : Bool) (c : Client) :
    (c.ask connected).refill = c.refill := by
  cases connected <;> rfl

@[simp] theorem replies_ask (connected : Bool) (c : Client) :
    (c.ask connected).replies = c.replies := by
  cases connected <;> rfl

theorem send_relay (connected : Bool) (id : Uuid) (action : Action) (c : Client)
    (sent : List (Command Action)) :
    send (relay connected) id action c sent =
      (c.ask connected, sent ++ [⟨id, action⟩], []) := by
  cases connected <;> rfl

theorem sendOne_relay (connected : Bool) (id : Uuid) (left : Nat) (c : Client)
    (sent : List (Command Action)) :
    sendOne (relay connected) id left c sent =
      ({ c.ask connected with refill := if c.phase = .stopped then none else some left },
        sent ++ [⟨id, .fillBuffer⟩], []) := by
  cases connected <;> rfl

/-- What a step of the task queue does: the client afterwards, the commands sent and the events. -/
inductive Turn (connected : Bool) (id : Uuid) (c : Client) :
    Client → List (Command Action) → List ClientEvent → Prop where
  /-- The refill at hand ends. -/
  | filled (hrefill : c.refill = some 0) :
    Turn connected id c { c with phase := .standby, refill := none } [] [.bufferFilled c.window]
  /-- The refill at hand sends a command. -/
  | filling (left : Nat) (hrefill : c.refill = some (left + 1)) :
    Turn connected id c
      { c.ask connected with refill := if c.phase = .stopped then none else some left }
      [⟨id, .fillBuffer⟩] []
  /-- The server is asked to start. -/
  | started (rest : List Task) (hrefill : c.refill = none) (htasks : c.tasks = .start :: rest)
      (hphase : c.phase = .stopped) :
    Turn connected id c
      (ask connected { c with tasks := rest, phase := .waitingForServerStart }) [⟨id, .start⟩] []
  /-- The client stops. -/
  | stopped (rest : List Task) (hrefill : c.refill = none) (htasks : c.tasks = .stop :: rest) :
    Turn connected id c { c with tasks := rest, phase := .stopped } [] []
  /-- A refill begins. -/
  | refilled (task : Task) (rest : List Task) (hrefill : c.refill = none)
      (htasks : c.tasks = task :: rest) (hfills : task.Fills) (hidle : ¬ task.Idle c.phase) :
    Turn connected id c { c with tasks := rest }.beginRefill [] []
  /-- The client stops because the server is gone. -/
  | lost (rest : List Task) (hrefill : c.refill = none) (htasks : c.tasks = .serverGone :: rest)
      (hphase : c.phase ≠ .stopped) :
    Turn connected id c { c with tasks := rest, phase := .stopped } [] [.serverGone]
  /-- The oldest task does nothing. -/
  | idle (task : Task) (rest : List Task) (hrefill : c.refill = none)
      (htasks : c.tasks = task :: rest) (hidle : task.Idle c.phase) :
    Turn connected id c { c with tasks := rest } [] []

/-- A step of the task queue is a turn. -/
theorem turn_of_taskStep? {connected : Bool} {id : Uuid} {c changed : Client}
    {sent : List (Command Action)} {events : List ClientEvent}
    (h : c.taskStep? (relay connected) id [] = some (changed, sent, events)) :
    Turn connected id c changed sent events := by
  rcases c.refill_cases with hrefill | hrefill | ⟨left, hrefill⟩
  · cases htasks : c.tasks with
    | nil =>
      rw [taskStep?_nil hrefill htasks] at h
      exact absurd h (Option.some_ne_none _).symm
    | cons task rest =>
      rw [taskStep?_cons hrefill htasks, Option.some.injEq] at h
      cases task with
      | start =>
        by_cases hphase : c.phase = .stopped
        · rw [begin_, if_pos hphase, send_relay, Prod.mk.injEq, Prod.mk.injEq] at h
          obtain ⟨rfl, rfl, rfl⟩ := h
          exact .started rest hrefill htasks hphase
        · rw [begin_, if_neg hphase, Prod.mk.injEq, Prod.mk.injEq] at h
          obtain ⟨rfl, rfl, rfl⟩ := h
          exact .idle .start rest hrefill htasks hphase
      | stop =>
        rw [begin_, Prod.mk.injEq, Prod.mk.injEq] at h
        obtain ⟨rfl, rfl, rfl⟩ := h
        exact .stopped rest hrefill htasks
      | serverDidStart =>
        by_cases hphase : c.phase = .waitingForServerStart
        · rw [begin_, if_pos hphase, Prod.mk.injEq, Prod.mk.injEq] at h
          obtain ⟨rfl, rfl, rfl⟩ := h
          exact .refilled _ rest hrefill htasks (.inl rfl) (not_not_intro hphase)
        · rw [begin_, if_neg hphase, Prod.mk.injEq, Prod.mk.injEq] at h
          obtain ⟨rfl, rfl, rfl⟩ := h
          exact .idle _ rest hrefill htasks hphase
      | needBuffer =>
        by_cases hphase : c.phase = .stopped
        · rw [begin_, if_pos hphase, Prod.mk.injEq, Prod.mk.injEq] at h
          obtain ⟨rfl, rfl, rfl⟩ := h
          exact .idle _ rest hrefill htasks hphase
        · rw [begin_, if_neg hphase, Prod.mk.injEq, Prod.mk.injEq] at h
          obtain ⟨rfl, rfl, rfl⟩ := h
          exact .refilled _ rest hrefill htasks (.inr rfl) hphase
      | serverGone =>
        by_cases hphase : c.phase = .stopped
        · rw [begin_, lose, if_pos hphase, Prod.mk.injEq, Prod.mk.injEq] at h
          obtain ⟨rfl, rfl, rfl⟩ := h
          exact .idle _ rest hrefill htasks hphase
        · rw [begin_, lose, if_neg hphase, Prod.mk.injEq, Prod.mk.injEq] at h
          obtain ⟨rfl, rfl, rfl⟩ := h
          exact .lost rest hrefill htasks hphase
  · rw [taskStep?_zero hrefill, Option.some.injEq, Prod.mk.injEq, Prod.mk.injEq] at h
    obtain ⟨rfl, rfl, rfl⟩ := h
    exact .filled hrefill
  · rw [taskStep?_succ hrefill, Option.some.injEq, sendOne_relay, Prod.mk.injEq,
      Prod.mk.injEq] at h
    obtain ⟨rfl, rfl, rfl⟩ := h
    exact .filling left hrefill

namespace Turn

variable {connected : Bool} {id : Uuid} {c changed : Client} {sent : List (Command Action)}
  {events : List ClientEvent}

/-- Replies wait untouched. -/
theorem replies_eq (h : Turn connected id c changed sent events) : changed.replies = c.replies := by
  cases h <;> simp only [replies_ask, beginRefill]

/-- Whatever is sent has the identifier of the step. -/
theorem id_eq (h : Turn connected id c changed sent events) :
    ∀ command ∈ sent, command.id = id := by
  cases h <;> simp

/-- A client whose transport leads to the server posts no tasks to itself. -/
theorem mem_tasks (h : Turn true id c changed sent events) {task : Task}
    (htask : task ∈ changed.tasks) : task ∈ c.tasks := by
  cases h with
  | filled => exact htask
  | filling => exact htask
  | started rest _ htasks
  | stopped rest _ htasks
  | refilled _ rest _ htasks
  | lost rest _ htasks
  | idle _ rest _ htasks =>
    rw [htasks]
    exact .tail _ htask

end Turn

end Client

end PacketTunnel.Ipc
