import PacketTunnel.Proofs.ClientSession

/-!
# Tasks in their order

The tasks of a client wait in a queue, and its steps begin the oldest one or none. Whatever else
happens to a client puts tasks behind those that wait; so a task that says that the server is gone
is begun in its turn, and unless the client is told to stop or opens another session meanwhile, it
finds the client stopped, or stops it.
-/

namespace PacketTunnel.Ipc

/-- The task that waits at once when a command is sent. -/
def Sent.posted (s : Sent) : List Task := if s.answer = some .noData then [.serverGone] else []

/-- Whether a step is one of the task queue. -/
def ExchangeStep.isTask {τ : Type} : ExchangeStep τ → Bool
  | .task _ => true
  | _ => false

namespace Client

variable {τ : Type}

/-- A client that has its answer to a command, if there is one at once. -/
def heard (c : Client) (sent : Sent) : Client :=
  match sent.answer with
  | some answer => c.receive answer
  | none => c

theorem tasks_receive (c : Client) (answer : Answer) :
    (c.receive answer).tasks = c.tasks ++ (⟨some answer, false⟩ : Sent).posted := by
  cases answer with
  | noData => rfl
  | reply | unreadable => exact (List.append_nil _).symm

theorem window_receive (c : Client) (answer : Answer) :
    (c.receive answer).window = c.window := by
  cases answer <;> rfl

theorem heard_eq (c : Client) (sent : Sent) : (c.heard sent).phase = c.phase ∧
    (c.heard sent).window = c.window ∧ (c.heard sent).refill = c.refill ∧
    (c.heard sent).tasks = c.tasks ++ sent.posted := by
  obtain ⟨answer, failed⟩ := sent
  cases answer with
  | none => exact ⟨rfl, rfl, rfl, (List.append_nil _).symm⟩
  | some answer =>
    obtain ⟨hphase, hrefill, -⟩ := c.receive_eq answer
    exact ⟨hphase, c.window_receive answer, hrefill, c.tasks_receive answer⟩

/-- The answer comes first, and then the client goes on or is lost. -/
theorem send_eq (transport : Transport τ) (id : Uuid) (action : Action) (c : Client) (t : τ) :
    send transport id action c t =
      if (transport t ⟨id, action⟩).2.failed then
        ((c.heard (transport t ⟨id, action⟩).2).lose.1, (transport t ⟨id, action⟩).1,
          (c.heard (transport t ⟨id, action⟩).2).lose.2)
      else (c.heard (transport t ⟨id, action⟩).2, (transport t ⟨id, action⟩).1, []) := rfl

/-- What sending a command does to a client: an answer with no data posts a task, and just a command
that is not taken stops the client. -/
structure Sends (sent : Sent) (c changed : Client) (events : List ClientEvent) : Prop where
  /-- The window is as before. -/
  window : changed.window = c.window
  /-- The refill at hand is as before. -/
  refill : changed.refill = c.refill
  /-- A task may wait behind the others. -/
  tasks : changed.tasks = c.tasks ++ sent.posted
  /-- If the command is taken, the client goes on as it was. -/
  taken : sent.failed = false → changed.phase = c.phase ∧ events = []
  /-- If it is not, the client is stopped, which it tells. -/
  failed : sent.failed = true → c.phase ≠ .stopped →
    changed.phase = .stopped ∧ events = [.serverGone]

theorem sends_send (transport : Transport τ) (id : Uuid) (action : Action) (c : Client) (t : τ) :
    Sends (transport t ⟨id, action⟩).2 c (send transport id action c t).1
      (send transport id action c t).2.2 := by
  rw [send_eq]
  generalize (transport t ⟨id, action⟩).2 = sent
  obtain ⟨hphase, hwindow, hrefill, htasks⟩ := c.heard_eq sent
  cases hfailed : sent.failed with
  | false =>
    exact ⟨hwindow, hrefill, htasks, fun _ => ⟨hphase, rfl⟩,
      fun h => Bool.noConfusion (hfailed.symm.trans h)⟩
  | true =>
    have hgone (h : sent.failed = false) : False := Bool.noConfusion (hfailed.symm.trans h)
    by_cases hstopped : (c.heard sent).phase = .stopped
    · have hsame : (c.heard sent).lose = (c.heard sent, []) := by rw [lose, if_pos hstopped]
      rw [if_pos rfl, hsame]
      exact ⟨hwindow, hrefill, htasks, fun h => (hgone h).elim,
        fun _ h => absurd (hphase.symm.trans hstopped) h⟩
    · rw [if_pos rfl, lose_of_ne hstopped]
      exact ⟨hwindow, hrefill, htasks, fun h => (hgone h).elim, fun _ _ => ⟨rfl, rfl⟩⟩

/-- Tasks that wait behind one that is begun stay in front of what it makes wait. -/
theorem tasks_begin (transport : Transport τ) (id : Uuid) (c : Client) (t : τ) (task : Task) :
    c.tasks <+: (begin_ transport id c t task).1.tasks := by
  have hlose : c.tasks <+: c.lose.1.tasks := by
    rw [lose]
    split <;> exact List.prefix_refl _
  cases task with
  | start =>
    rw [begin_]
    split
    · exact ⟨_, (sends_send transport id .start { c with phase := .waitingForServerStart }
        t).tasks.symm⟩
    · exact List.prefix_refl _
  | stop => exact List.prefix_refl _
  | serverDidStart | needBuffer =>
    rw [begin_]
    split <;> exact List.prefix_refl _
  | serverGone => exact hlose

end Client

/-- What the client tells of itself; reconnects are told of at any time. -/
def Taken.lifecycle {τ : Type} (x : Taken τ) : List ClientEvent :=
  x.events.filter (·.endpoint?.isNone)

namespace Exchange

variable {τ : Type} {transport : Transport τ} {e : Exchange τ}

/-- What a step does that is not one of the task queue: it may make tasks wait, and that is all. -/
structure Bystands (x : Taken τ) : Prop where
  /-- Nothing is sent. -/
  sent : x.sent = []
  /-- Nothing is told but reconnects. -/
  lifecycle : x.lifecycle = []
  /-- No task is begun. -/
  begins : x.begins = none
  /-- The phase is as before. -/
  phase : x.after.client.phase = x.before.client.phase
  /-- So is the window. -/
  window : x.after.client.window = x.before.client.window
  /-- So is the refill at hand. -/
  refill : x.after.client.refill = x.before.client.refill
  /-- More tasks may wait behind the others. -/
  tasks : x.before.client.tasks <+: x.after.client.tasks

theorem bystands_step (transport : Transport τ) (e : Exchange τ) {x : ExchangeStep τ}
    (hx : x.isTask = false) : Bystands (e.taken transport x) := by
  have hsilent {e' : Exchange τ} {x : ExchangeStep τ} {events : List ClientEvent}
      (hcommands : e'.commands = e.commands) : (⟨e, x, e', events⟩ : Taken τ).sent = [] :=
    Taken.sent_eq (by rw [hcommands, List.append_nil])
  cases x with
  | task id => cases hx
  | start | stop =>
    exact ⟨hsilent rfl, rfl, rfl, rfl, rfl, rfl, List.prefix_append ..⟩
  | rewire wire => exact ⟨hsilent rfl, rfl, rfl, rfl, rfl, rfl, List.prefix_refl _⟩
  | drop index =>
    exact ⟨hsilent (e.commands_release index), rfl, rfl, rfl, rfl, rfl, List.prefix_refl _⟩
  | answer index answer =>
    rw [taken, step]
    split
    · obtain ⟨hphase, hrefill, -⟩ := e.client.receive_eq answer
      refine ⟨hsilent (e.commands_release index), rfl, rfl, hphase,
        e.client.window_receive answer, hrefill, ?_⟩
      exact (e.client.tasks_receive answer) ▸ List.prefix_append ..
    · exact ⟨hsilent rfl, rfl, rfl, rfl, rfl, rfl, List.prefix_refl _⟩
  | reply =>
    rw [taken]
    cases hreplies : e.client.replies with
    | nil =>
      rw [step_reply_none (Client.replyStep?_nil hreplies)]
      exact ⟨hsilent rfl, rfl, rfl, rfl, rfl, rfl, List.prefix_refl _⟩
    | cons reply rest =>
      rw [step_reply_some (Client.replyStep?_cons hreplies)]
      refine ⟨hsilent rfl, ?_, rfl, rfl, rfl, rfl, List.prefix_append ..⟩
      cases reply <;> rfl

/-- The step that ends a refill which has no more commands to send. -/
theorem filled_step (transport : Transport τ) {e : Exchange τ} (hrefill : e.client.refill = some 0)
    (id : Uuid) : e.taken transport (.task id) =
      ⟨e, .task id, (e.enter .standby e.client.tasks).withRefill none,
        [.bufferFilled e.client.window]⟩ := by
  rw [taken, step_task_some (Client.taskStep?_zero hrefill)]
  rfl

/-- Tasks are begun in the order in which they wait: a step begins the oldest one, or none. -/
theorem tasks_step (transport : Transport τ) (e : Exchange τ) (x : ExchangeStep τ) :
    (∃ task rest, (e.taken transport x).begins = some task ∧ e.client.tasks = task :: rest ∧
      rest <+: (e.taken transport x).after.client.tasks) ∨
    (e.taken transport x).begins = none ∧
      e.client.tasks <+: (e.taken transport x).after.client.tasks := by
  cases hx : x.isTask with
  | false =>
    have hby := bystands_step transport e hx
    exact .inr ⟨hby.begins, hby.tasks⟩
  | true =>
    obtain ⟨id, rfl⟩ : ∃ id, x = .task id := by
      cases x with
      | task id => exact ⟨id, rfl⟩
      | _ => cases hx
    have hbusy {n : Nat} (hrefill : e.client.refill = some n) :
        (e.taken transport (.task id)).begins = none := by
      show e.next? = none
      rw [next?, hrefill, if_neg (Option.some_ne_none _)]
    rcases e.client.refill_cases with hrefill | hrefill | ⟨left, hrefill⟩
    · have hbegins : (e.taken transport (.task id)).begins = e.client.tasks.head? := by
        show e.next? = _
        rw [next?, if_pos hrefill]
      cases htasks : e.client.tasks with
      | nil =>
        rw [htasks] at hbegins
        exact .inr ⟨hbegins, List.nil_prefix⟩
      | cons task rest =>
        rw [htasks] at hbegins
        refine .inl ⟨task, rest, hbegins, rfl, ?_⟩
        rw [taken, step_task_some (Client.taskStep?_cons hrefill htasks)]
        exact Client.tasks_begin (recording transport) id { e.client with tasks := rest }
          (e.wire, e.handed) task
    · refine .inr ⟨hbusy hrefill, ?_⟩
      rw [filled_step transport hrefill id]
      exact List.prefix_refl _
    · refine .inr ⟨hbusy hrefill, ?_⟩
      rw [taken, step_task_some (Client.taskStep?_succ hrefill)]
      have hsends := Client.sends_send (recording transport) id .fillBuffer e.client
        (e.wire, e.handed)
      exact ⟨_, hsends.tasks.symm⟩

/-- A client that goes on is stopped by a task that says that the server is gone. -/
theorem Fitting.stopped_of_begins (h : e.Fitting) {x : ExchangeStep τ}
    (hbegins : (e.taken transport x).begins = some .serverGone)
    (hphase : e.client.phase ≠ .stopped) :
    (e.taken transport x).after.client.phase = .stopped := by
  cases x with
  | task id =>
    have hdeed := deed_task h transport id
    rw [show e.next? = some .serverGone from hbegins] at hdeed
    show (e.step transport (.task id)).1.client.phase = .stopped
    generalize (e.step transport (.task id)).1 = e', (e.step transport (.task id)).2 = events
      at hdeed ⊢
    cases hdeed with
    | refilled _ rest hrefill htasks hfills =>
      rcases hfills with h | h
      all_goals cases h
    | lost => rfl
    | idle _ rest hrefill htasks hidle => exact absurd hidle hphase
  | _ => cases hbegins

theorem history_cons (transport : Transport τ) (e : Exchange τ) (x : ExchangeStep τ)
    (rest : List (ExchangeStep τ)) : e.history transport (x :: rest) =
      e.taken transport x :: (e.taken transport x).after.history transport rest := rfl

/-- A stopped client that opens no session stays stopped and does not tell that the server is
gone. -/
theorem Fitting.silent (h : e.Fitting) {steps : List (ExchangeStep τ)}
    (hphase : e.client.phase = .stopped) (hopens : ∀ x ∈ e.history transport steps, ¬ x.Opens) :
    (e.run transport steps).1.client.phase = .stopped ∧
      ((e.history transport steps).flatMap Taken.events).count .serverGone = 0 := by
  induction steps generalizing e with
  | nil => exact ⟨hphase, rfl⟩
  | cons x rest ih =>
    obtain ⟨hfirst, hrest⟩ := List.forall_mem_cons.mp hopens
    have hconduct := Taken.Conduct.of_step h transport x
    have hinert := hconduct.inert hphase fun hbegins => hfirst ⟨hbegins, hphase⟩
    obtain ⟨hstopped, hcount⟩ := ih hconduct.fitting hinert.stays hrest
    refine ⟨hstopped, ?_⟩
    rw [history_cons, List.flatMap_cons, List.count_append, hcount, Nat.add_zero,
      List.count_eq_zero]
    intro hmem
    obtain ⟨endpoint, heq⟩ := hinert.events _ hmem
    cases heq

/-- Once the task queue has begun a task that says that the server is gone, a client that was not
told to stop and opens no session is stopped and has told so once. -/
theorem Fitting.lost_once (h : e.Fitting) {steps : List (ExchangeStep τ)}
    (hphase : e.client.phase ≠ .stopped) {i : Nat}
    (htask : e.client.tasks[i]? = some .serverGone)
    (hbegun : i < (e.history transport steps).countP (·.begins.isSome))
    (hstop : ∀ x ∈ e.history transport steps, x.begins ≠ some .stop)
    (hopens : ∀ x ∈ e.history transport steps, ¬ x.Opens) :
    (e.run transport steps).1.client.phase = .stopped ∧
      ((e.history transport steps).flatMap Taken.events).count .serverGone = 1 := by
  induction steps generalizing e i with
  | nil => exact absurd hbegun (Nat.not_lt_zero _)
  | cons x rest ih =>
    obtain ⟨hfirst, hrest⟩ := List.forall_mem_cons.mp hstop
    obtain ⟨-, hclosed⟩ := List.forall_mem_cons.mp hopens
    have hconduct := Taken.Conduct.of_step h transport x
    have hlater {l m : List Task} {j : Nat} (hgrows : l <+: m) (hl : l[j]? = some .serverGone) :
        m[j]? = some .serverGone := by
      obtain ⟨hj, hget⟩ := List.getElem?_eq_some_iff.mp hl
      rw [List.prefix_iff_getElem?.mp hgrows j hj, hget]
    rw [history_cons, List.flatMap_cons, List.count_append]
    by_cases hafter : (e.taken transport x).after.client.phase = .stopped
    · obtain ⟨hstopped, hcount⟩ := hconduct.fitting.silent hafter hclosed
      refine ⟨hstopped, ?_⟩
      rw [hcount, hconduct.ends hphase hafter, if_neg hfirst]
      rfl
    · -- The task is not begun yet, so it waits one place further on in front, or where it was.
      rw [List.count_eq_zero_of_not_mem (hconduct.goesOn hphase hafter), Nat.zero_add]
      rw [history_cons, List.countP_cons] at hbegun
      rcases tasks_step transport e x with ⟨task, others, hbegins, htasks, hgrows⟩ |
        ⟨hbegins, hgrows⟩
      · rw [hbegins, Option.isSome_some, if_pos rfl] at hbegun
        rw [htasks] at htask
        cases i with
        | zero =>
          rw [List.getElem?_cons_zero] at htask
          rw [htask] at hbegins
          exact absurd (h.stopped_of_begins hbegins hphase) hafter
        | succ i =>
          rw [List.getElem?_cons_succ] at htask
          exact ih hconduct.fitting hafter (hlater hgrows htask)
            (Nat.lt_of_succ_lt_succ hbegun) hrest hclosed
      · rw [hbegins, Option.isSome_none, if_neg Bool.false_ne_true] at hbegun
        exact ih hconduct.fitting hafter (hlater hgrows htask) hbegun hrest hclosed

/-- How a client that waits for a task which says that the server is gone goes on: once that task
has been begun, with none to stop and none that opens a session, the client is stopped and has told
so once. -/
def LosesOnce (transport : Transport τ) (e : Exchange τ) : Prop :=
  ∀ i steps, e.client.tasks[i]? = some .serverGone →
    i < (e.history transport steps).countP (·.begins.isSome) →
    (∀ x ∈ e.history transport steps, x.begins ≠ some .stop) →
    (∀ x ∈ e.history transport steps, ¬ x.Opens) →
    (e.run transport steps).1.client.phase = .stopped ∧
      ((e.history transport steps).flatMap Taken.events).count .serverGone = 1

end Exchange

end PacketTunnel.Ipc
