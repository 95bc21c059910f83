import PacketTunnel.Proofs.Apart
import PacketTunnel.Proofs.Exchange
import PacketTunnel.Proofs.UuidNumber

/-!
# Answers to commands of another session

A client keeps no record of which session a command belongs to, so an answer acts whenever it comes.
All it does is to put a task into the queue, or a reply that becomes one. Until the client begins
that task, everything goes on as if the answer had never come, and if the phase has no use for the
task, nothing came of it in the end. Otherwise the task has its effect once, on whatever session is
under way.
-/

namespace PacketTunnel.Ipc

/-- The task that an answer leads to. -/
def Answer.task? : Answer → Option Task
  | .noData => some .serverGone
  | .reply found => found.task?
  | .unreadable => none

/-- An answer leads to one of three tasks. -/
theorem Answer.task?_cases {answer : Answer} {task : Task} (h : answer.task? = some task) :
    task = .serverGone ∨ task.Fills := by
  cases answer with
  | noData => exact .inl (Option.some.inj h).symm
  | unreadable => exact absurd h (Option.some_ne_none task).symm
  | reply found =>
    cases found with
    | serverStarted => exact .inr (.inl (Option.some.inj h).symm)
    | needBuffer => exact .inr (.inr (Option.some.inj h).symm)
    | reconnected endpoint => exact absurd h (Option.some_ne_none task).symm

/-- What an answer does to a client that has use for it: no data stop it, which it tells, and
anything else begins a refill. -/
def Client.struck (c : Client) (task : Task) : Client × List ClientEvent :=
  if task = .serverGone then ({ c with phase := .stopped }, [.serverGone]) else (c.beginRefill, [])

/-- A task that an answer leads to does nothing if the phase has no use for it, and strikes if it
has. -/
theorem Client.begin_answer {τ : Type} {task : Task} (h : task = .serverGone ∨ task.Fills)
    (transport : Transport τ) (id : Uuid) (c : Client) (t : τ) :
    Client.begin_ transport id c t task =
      if task.Idle c.phase then (c, t, []) else ((c.struck task).1, t, (c.struck task).2) := by
  rcases h with rfl | rfl | rfl
  · by_cases hphase : c.phase = .stopped
    · have hidle : Task.Idle .serverGone c.phase := hphase
      rw [if_pos hidle, begin_, lose, if_pos hphase]
    · have hidle : ¬ Task.Idle .serverGone c.phase := hphase
      rw [if_neg hidle, begin_, lose, if_neg hphase]
      rfl
  · by_cases hphase : c.phase = .waitingForServerStart
    · have hidle : ¬ Task.Idle .serverDidStart c.phase := not_not_intro hphase
      rw [if_neg hidle, begin_, if_pos hphase]
      rfl
    · have hidle : Task.Idle .serverDidStart c.phase := hphase
      rw [if_pos hidle, begin_, if_neg hphase]
  · by_cases hphase : c.phase = .stopped
    · have hidle : Task.Idle .needBuffer c.phase := hphase
      rw [if_pos hidle, begin_, if_pos hphase]
    · have hidle : ¬ Task.Idle .needBuffer c.phase := hphase
      rw [if_neg hidle, begin_, if_neg hphase]
      rfl

namespace Exchange

variable {τ : Type}

/-- An exchange that goes on like another, but for what may be there once more for so many steps. -/
structure Alike (task : Task) (n : Nat) (plain answered : Exchange τ) : Prop where
  /-- The transports are in the same state. -/
  wire : answered.wire = plain.wire
  /-- The same commands were handed over, and wait alike. -/
  handed : answered.handed = plain.handed
  /-- The clients are equal, or the task is there once more. -/
  client : answered.client = plain.client ∨ Apart task plain.client n answered.client

/-- The same steps without so many of those that the client's queues take, at the most. -/
inductive Skips : Nat → List (ExchangeStep τ) → List (ExchangeStep τ) → Prop where
  /-- All steps are the same. -/
  | same (n : Nat) (steps : List (ExchangeStep τ)) : Skips n steps steps
  /-- The first step is the same. -/
  | both {n : Nat} {steps others : List (ExchangeStep τ)} (x : ExchangeStep τ)
      (h : Skips n steps others) : Skips n (x :: steps) (x :: others)
  /-- The first step is skipped. -/
  | skip {n : Nat} {steps others : List (ExchangeStep τ)} {x : ExchangeStep τ} (hx : x.Own)
      (h : Skips n steps others) : Skips (n + 1) (x :: steps) others

/-- Where the task is there once more, a step of the task queue leads to the same on both sides, or
it passes unseen, or it begins the task. -/
theorem step_apart_task {transport : Transport τ} {task : Task} {n : Nat}
    (htask : task = .serverGone ∨ task.Fills) {plain answered : Exchange τ}
    (hwire : answered.wire = plain.wire) (hhanded : answered.handed = plain.handed)
    (h : Apart task plain.client n answered.client) (id : Uuid) :
    ((answered.step transport (.task id)).2 = (plain.step transport (.task id)).2 ∧
      Alike task n (plain.step transport (.task id)).1 (answered.step transport (.task id)).1) ∨
    (n = 1 ∧ (answered.step transport (.task id)).2 = [] ∧
      Alike task 0 plain (answered.step transport (.task id)).1) ∨
    (plain.client.refill = none ∧ ¬ task.Idle plain.client.phase ∧
      answered.step transport (.task id) =
        (plain.withClient (plain.client.struck task).1, (plain.client.struck task).2)) := by
  rcases h.taskStep? (recording transport) id (plain.wire, plain.handed) with
    ⟨hplain, hanswered⟩ | ⟨v, w, ⟨⟨wire, handed⟩, events⟩, hplain, hanswered, hapart⟩ |
    ⟨hn, hrefill, hclient⟩
  · rw [← hwire, ← hhanded] at hanswered
    rw [step_task_none hplain, step_task_none hanswered]
    exact .inl ⟨rfl, hwire, hhanded, .inr h⟩
  · rw [← hwire, ← hhanded] at hanswered
    rw [step_task_some hplain, step_task_some hanswered]
    exact .inl ⟨rfl, rfl, rfl, .inr hapart⟩
  · have hbegun : answered.client.taskStep? (recording transport) id
        (answered.wire, answered.handed) =
          some (Client.begin_ (recording transport) id plain.client (plain.wire, plain.handed)
            task) := by
      rw [hclient, hwire, hhanded]
      exact Client.taskStep?_cons hrefill rfl
    rw [Client.begin_answer htask] at hbegun
    by_cases hidle : task.Idle plain.client.phase
    · rw [if_pos hidle] at hbegun
      rw [step_task_some hbegun]
      exact .inr (.inl ⟨hn, rfl, rfl, rfl, .inl rfl⟩)
    · rw [if_neg hidle] at hbegun
      rw [step_task_some hbegun]
      exact .inr (.inr ⟨hrefill, hidle, rfl⟩)

/-- Where the task is there once more, a step of the reply queue leads to the same on both sides, or
it turns a reply into the task. -/
theorem step_apart_reply {transport : Transport τ} {task : Task} {n : Nat}
    {plain answered : Exchange τ} (hwire : answered.wire = plain.wire)
    (hhanded : answered.handed = plain.handed) (h : Apart task plain.client n answered.client) :
    ((answered.step transport .reply).2 = (plain.step transport .reply).2 ∧
      Alike task n (plain.step transport .reply).1 (answered.step transport .reply).1) ∨
    (n = 2 ∧ (answered.step transport .reply).2 = [] ∧
      Alike task 1 plain (answered.step transport .reply).1) := by
  rcases h.replyStep? with ⟨hplain, hanswered⟩ | ⟨v, w, events, hplain, hanswered, hapart⟩ |
    ⟨hn, w, hanswered, hapart⟩
  · rw [step_reply_none hplain, step_reply_none hanswered]
    exact .inl ⟨rfl, hwire, hhanded, .inr h⟩
  · rw [step_reply_some hplain, step_reply_some hanswered]
    exact .inl ⟨rfl, hwire, hhanded, .inr hapart⟩
  · rw [step_reply_some hanswered]
    exact .inr ⟨hn, rfl, hwire, hhanded, .inr hapart⟩

/-- Where the task is there once more, a step leads to the same on both sides, or it is one of the
client's own that passes unseen, or it begins the task. -/
theorem step_apart {transport : Transport τ} {task : Task} {n : Nat}
    (htask : task = .serverGone ∨ task.Fills) {plain answered : Exchange τ}
    (hwire : answered.wire = plain.wire) (hhanded : answered.handed = plain.handed)
    (h : Apart task plain.client n answered.client) (x : ExchangeStep τ) :
    ((answered.step transport x).2 = (plain.step transport x).2 ∧
      Alike task n (plain.step transport x).1 (answered.step transport x).1) ∨
    (∃ m, n = m + 1 ∧ x.Own ∧ (answered.step transport x).2 = [] ∧
      Alike task m plain (answered.step transport x).1) ∨
    (∃ id, x = .task id ∧ plain.client.refill = none ∧ ¬ task.Idle plain.client.phase ∧
      answered.step transport x =
        (plain.withClient (plain.client.struck task).1, (plain.client.struck task).2)) := by
  cases x with
  | start => exact .inl ⟨rfl, hwire, hhanded, .inr (h.post .start)⟩
  | stop => exact .inl ⟨rfl, hwire, hhanded, .inr (h.post .stop)⟩
  | rewire wire => exact .inl ⟨rfl, rfl, hhanded, .inr h⟩
  | answer index answer =>
    refine .inl ⟨rfl, ?_⟩
    have hwaits : answered.waits index = plain.waits index := by rw [waits, waits, hhanded]
    rw [step, step, hwaits]
    by_cases hwaiting : plain.waits index = true
    · rw [if_pos hwaiting, if_pos hwaiting]
      exact ⟨hwire, congrArg (List.modify · index _) hhanded, .inr (h.receive answer)⟩
    · rw [if_neg hwaiting, if_neg hwaiting]
      exact ⟨hwire, hhanded, .inr h⟩
  | drop index => exact .inl ⟨rfl, hwire, congrArg (List.modify · index _) hhanded, .inr h⟩
  | task id =>
    rcases step_apart_task htask hwire hhanded h id with hboth | ⟨hn, hunseen⟩ | hstrikes
    · exact .inl hboth
    · exact .inr (.inl ⟨0, hn, trivial, hunseen⟩)
    · exact .inr (.inr ⟨id, rfl, hstrikes⟩)
  | reply =>
    rcases step_apart_reply hwire hhanded h with hboth | ⟨hn, hunseen⟩
    · exact .inl hboth
    · exact .inr (.inl ⟨1, hn, trivial, hunseen⟩)

/-- A run on one side shows what it shows on the other without the steps that use up the task, and
nothing came of the task yet: it is there once more, or it has passed unseen. -/
structure Unseen (transport : Transport τ) (task : Task) (n : Nat) (plain answered : Exchange τ)
    (steps others : List (ExchangeStep τ)) : Prop where
  /-- The same steps are taken on the other side, but for a few of the client's own. -/
  skips : Skips n steps others
  /-- The client tells the same. -/
  events : (answered.run transport steps).2 = (plain.run transport others).2
  /-- Both sides are alike in the end. -/
  alike : ∃ m, Alike task m (plain.run transport others).1 (answered.run transport steps).1

/-- A run on one side up to a step that begins the task shows what it shows on the other without the
steps that use up the task, and then the task strikes, once. -/
structure Strikes (transport : Transport τ) (task : Task) (n : Nat) (plain answered : Exchange τ)
    (before others : List (ExchangeStep τ)) (id : Uuid) : Prop where
  /-- The same steps are taken on the other side, but for a few of the client's own. -/
  skips : Skips n before others
  /-- No refill is at hand. -/
  refill : (plain.run transport others).1.client.refill = none
  /-- The client has use for the task. -/
  useful : ¬ task.Idle (plain.run transport others).1.client.phase
  /-- The sides differ by what the task does, and by nothing else. -/
  struck : answered.run transport (before ++ [.task id]) =
    ((plain.run transport others).1.withClient
      ((plain.run transport others).1.client.struck task).1,
      (plain.run transport others).2 ++ ((plain.run transport others).1.client.struck task).2)

/-- Over a run of two sides that are alike, the task is not seen, or it strikes once. -/
theorem run_alike {transport : Transport τ} {task : Task} (htask : task = .serverGone ∨ task.Fills)
    {n : Nat} {plain answered : Exchange τ} (h : Alike task n plain answered)
    (steps : List (ExchangeStep τ)) :
    (∃ others, Unseen transport task n plain answered steps others) ∨
    (∃ before id after others, steps = before ++ .task id :: after ∧
      Strikes transport task n plain answered before others id) := by
  induction steps generalizing n plain answered with
  | nil => exact .inl ⟨[], .same n [], rfl, n, h⟩
  | cons x rest ih =>
    rcases h.client with hclient | hapart
    · obtain rfl : answered = plain := by
        obtain ⟨client, wire, handed⟩ := answered
        rw [Exchange.mk.injEq]
        exact ⟨hclient, h.wire, h.handed⟩
      exact .inl ⟨x :: rest, .same n _, rfl, n, rfl, rfl, .inl rfl⟩
    · rcases step_apart htask h.wire h.handed hapart x with ⟨hevents, halike⟩ |
        ⟨m, rfl, hown, hevents, halike⟩ | ⟨id, rfl, hrefill, huseful, hstruck⟩
      · rcases ih halike with ⟨others, hrest⟩ | ⟨before, id, after, others, rfl, hrest⟩
        · refine .inl ⟨x :: others, hrest.skips.both x, ?_, hrest.alike⟩
          rw [run_cons, run_cons, hevents, hrest.events]
        · refine .inr ⟨x :: before, id, after, x :: others, rfl, hrest.skips.both x,
            hrest.refill, hrest.useful, ?_⟩
          rw [List.cons_append, run_cons, run_cons, hrest.struck, hevents, List.append_assoc]
      · rcases ih halike with ⟨others, hrest⟩ | ⟨before, id, after, others, rfl, hrest⟩
        · refine .inl ⟨others, hrest.skips.skip hown, ?_, hrest.alike⟩
          rw [run_cons, hevents, hrest.events]
          rfl
        · refine .inr ⟨x :: before, id, after, others, rfl, hrest.skips.skip hown, hrest.refill,
            hrest.useful, ?_⟩
          rw [List.cons_append, run_cons, hrest.struck, hevents]
          rfl
      · refine .inr ⟨[], id, rest, [], rfl, .same n [], hrefill, huseful, ?_⟩
        rw [List.nil_append, run_cons, hstruck]
        simp only [run, List.append_nil, List.nil_append]

/-- An answer leaves everything as it is but for the task it leads to. -/
theorem alike_answer (transport : Transport τ) {e : Exchange τ} {index : Nat}
    (hwaits : e.waits index) {answer : Answer} {task : Task} (htask : answer.task? = some task) :
    ∃ n ≤ 2, Alike task n (e.step transport (.drop index)).1
      (e.step transport (.answer index answer)).1 := by
  rw [step, step, if_pos hwaits]
  cases answer with
  | noData =>
    obtain rfl := Option.some.inj htask
    exact ⟨1, by decide, rfl, rfl, .inr (.inTasks e.client.tasks [] (List.append_nil _).symm)⟩
  | reply found =>
    exact ⟨2, by decide, rfl, rfl,
      .inr (.inReplies found e.client.replies [] htask (List.append_nil _).symm)⟩
  | unreadable => exact absurd htask (Option.some_ne_none task).symm

/-- Whatever the transport and the order of steps, an answer to a command of any session passes
unseen, or it strikes once: when its task is begun by a client that has use for it. The run without
the answer is one in which the reply handler is dropped instead. -/
theorem answer_unseen_or_strikes (transport : Transport τ) (e : Exchange τ) (index : Nat)
    (hwaits : e.waits index) (answer : Answer) (task : Task) (htask : answer.task? = some task)
    (steps : List (ExchangeStep τ)) : ∃ n ≤ 2,
    (∃ others, Unseen transport task n (e.step transport (.drop index)).1
      (e.step transport (.answer index answer)).1 steps others) ∨
    (∃ before id after others, steps = before ++ .task id :: after ∧
      Strikes transport task n (e.step transport (.drop index)).1
        (e.step transport (.answer index answer)).1 before others id) := by
  obtain ⟨n, hn, halike⟩ := alike_answer transport hwaits htask
  exact ⟨n, hn, run_alike (Answer.task?_cases htask) halike steps⟩

/-- A transport that takes every command and answers none by itself. -/
def silent : Transport Unit := fun _ _ => ((), ⟨none, false⟩)

/-- A client that was stopped and started again, and has asked two servers to start. -/
def restarted : Exchange Unit :=
  ((fresh 1 ()).run silent [.start, .task (.numbered 0), .stop, .task (.numbered 0), .start,
    .task (.numbered 1)]).1

/-- No data for the command of the first session strike the second. -/
theorem answer_restarted : restarted.waits 0 = true ∧ Answer.noData.task? = some .serverGone ∧
    ∃ n ≤ 2, (∃ others, Unseen silent .serverGone n (restarted.step silent (.drop 0)).1
        (restarted.step silent (.answer 0 .noData)).1 [.task (.numbered 0)] others) ∨
      (∃ before id after others, [.task (.numbered 0)] = before ++ .task id :: after ∧
        Strikes silent .serverGone n (restarted.step silent (.drop 0)).1
          (restarted.step silent (.answer 0 .noData)).1 before others id) := by
  have hwaits : restarted.waits 0 = true := by decide
  refine ⟨hwaits, rfl, ?_⟩
  exact answer_unseen_or_strikes silent restarted 0 hwaits .noData .serverGone rfl _

/-- An answer to the command of the first session, sent before the latest start, changes where the
client of the second session stands: no data stop it, which it tells, and the others begin a refill
that sends. -/
theorem restarted_not_isolated :
    restarted.handed.map (·.command.action) = [.start, .start] ∧
    (∀ answer ∈ [Answer.noData, .reply .serverStarted, .reply .needBuffer],
      (restarted.run silent [.answer 0 answer, .reply, .task (.numbered 0)]).1.client.phase ≠
        (restarted.run silent [.drop 0, .reply, .task (.numbered 0)]).1.client.phase) ∧
    (restarted.run silent [.answer 0 .noData, .reply, .task (.numbered 0)]).2 = [.serverGone] ∧
    (restarted.run silent [.drop 0, .reply, .task (.numbered 0)]).2 = [] ∧
    (∀ answer ∈ [Answer.reply .serverStarted, .reply .needBuffer],
      (restarted.run silent [.answer 0 answer, .reply, .task (.numbered 0),
        .task (.numbered 2)]).1.handed.map (·.command.action) = [.start, .start, .fillBuffer]) := by
  decide

end Exchange

end PacketTunnel.Ipc
