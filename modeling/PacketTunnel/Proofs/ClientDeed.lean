import PacketTunnel.Proofs.StaleAnswer

/-!
# What a client does in a step

On any transport a step of the task queue does one of eight things. Where it hands over a command,
the transport may answer at once, and it may refuse the command; an answer only makes a task or a
reply wait, and a refusal stops the client, which it tells. A step that was taken is described by
what it begins, what it sends, what it tells and what replies come in with it. A refill is at hand
exactly in the phase of filling, in which no task is begun.
-/

namespace PacketTunnel.Ipc

/-- The reply that an answer is, if it is one. -/
def Answer.reply? : Answer → Option Reply
  | .reply found => some found
  | .noData => none
  | .unreadable => none

/-- The endpoint that a client tells of. -/
def ClientEvent.endpoint? : ClientEvent → Option String
  | .reconnected endpoint => some endpoint
  | .bufferFilled _ => none
  | .serverGone => none

namespace Client

/-- An answer makes a task or a reply wait, and nothing else. -/
theorem receive_eq (c : Client) (answer : Answer) :
    (c.receive answer).phase = c.phase ∧ (c.receive answer).refill = c.refill ∧
      (c.receive answer).replies = c.replies ++ answer.reply?.toList := by
  cases answer with
  | noData => exact ⟨rfl, rfl, (List.append_nil _).symm⟩
  | reply found => exact ⟨rfl, rfl, rfl⟩
  | unreadable => exact ⟨rfl, rfl, (List.append_nil _).symm⟩

/-- A client that was not stopped is lost once. -/
theorem lose_of_ne {c : Client} (h : c.phase ≠ .stopped) :
    c.lose = ({ c with phase := .stopped }, [.serverGone]) := by
  rw [lose, if_neg h]

end Client

namespace Exchange

variable {τ : Type} {transport : Transport τ} {id : Uuid} {e : Exchange τ}

/-- The commands handed over so far. -/
def commands (e : Exchange τ) : List (Command Action) := e.handed.map (·.command)

/-- Letting go of a handler changes nothing about what was handed over. -/
theorem commands_release (e : Exchange τ) (index : Nat) :
    (e.release index).commands = e.commands := by
  apply List.ext_getElem?
  intro i
  rw [commands, commands, release, List.getElem?_map, List.getElem?_map, List.getElem?_modify]
  cases e.handed[i]? with
  | none => rfl
  | some h =>
    simp only [Option.map_eq_map, Option.map_some, Option.some.injEq]
    split <;> rfl

/-- What handing over a command comes to: it is on record, a reply may come in at once, and the
client goes on as it was or is stopped, which it tells. -/
structure HandsOver (transport : Transport τ) (command : Command Action) (e e' : Exchange τ)
    (events : List ClientEvent) : Prop where
  /-- The command is on record. -/
  commands : e'.commands = e.commands ++ [command]
  /-- A reply that comes at once waits behind the others. -/
  replies : e'.client.replies = e.client.replies ++
    ((transport e.wire command).2.answer.bind Answer.reply?).toList
  /-- The refill at hand is the same. -/
  refill : e'.client.refill = e.client.refill
  /-- The command was taken, or the server is lost. -/
  outcome : e'.client.phase = e.client.phase ∧ events = [] ∨
    e'.client.phase = .stopped ∧ events = [.serverGone]

/-- A client that is not stopped hands over what it sends. -/
theorem handsOver_send (transport : Transport τ) (id : Uuid) (action : Action) (e : Exchange τ)
    (hphase : e.client.phase ≠ .stopped)
    {client : Client} {wire : τ} {handed : List Handed} {events : List ClientEvent}
    (h : Client.send (recording transport) id action e.client (e.wire, e.handed) =
      (client, (wire, handed), events)) :
    HandsOver transport ⟨id, action⟩ e ⟨client, wire, handed⟩ events := by
  have hcommands (waiting : Bool) :
      (e.handed ++ [Handed.mk ⟨id, action⟩ waiting]).map Handed.command =
        e.commands ++ [⟨id, action⟩] := List.map_append
  obtain ⟨wire', answer, failed, hsent⟩ : ∃ wire' answer failed,
      transport e.wire ⟨id, action⟩ = (wire', ⟨answer, failed⟩) := ⟨_, _, _, rfl⟩
  -- An answer changes nothing about the client but what waits, so only a refusal matters.
  have hfinish (taken : Client) (htaken : taken.phase = e.client.phase ∧
        taken.refill = e.client.refill ∧
        taken.replies = e.client.replies ++ (answer.bind Answer.reply?).toList)
      (h : (if failed = true then (taken.lose.1,
          (wire', e.handed ++ [⟨⟨id, action⟩, answer.isNone⟩]), taken.lose.2)
        else (taken, (wire', e.handed ++ [⟨⟨id, action⟩, answer.isNone⟩]), [])) =
          (client, (wire, handed), events)) :
      HandsOver transport ⟨id, action⟩ e ⟨client, wire, handed⟩ events := by
    obtain ⟨hsame, hrefill, hreplies⟩ := htaken
    cases failed with
    | true =>
      rw [if_pos rfl, Client.lose_of_ne (hsame ▸ hphase)] at h
      simp only [Prod.mk.injEq] at h
      obtain ⟨rfl, ⟨rfl, rfl⟩, rfl⟩ := h
      exact ⟨hcommands _, by rw [hsent]; exact hreplies, hrefill, .inr ⟨rfl, rfl⟩⟩
    | false =>
      simp only [Bool.false_eq_true, ite_false, Prod.mk.injEq] at h
      obtain ⟨rfl, ⟨rfl, rfl⟩, rfl⟩ := h
      exact ⟨hcommands _, by rw [hsent]; exact hreplies, hrefill, .inl ⟨hsame, rfl⟩⟩
  simp only [Client.send, recording, hsent] at h
  cases answer with
  | none => exact hfinish e.client ⟨rfl, rfl, (List.append_nil _).symm⟩ h
  | some answer => exact hfinish (e.client.receive answer) (e.client.receive_eq answer) h

/-- A refill is at hand exactly while the window is being filled. -/
def Fitting (e : Exchange τ) : Prop :=
  e.client.refill.isSome ↔ e.client.phase = .fillingServerBuffer

/-- Put another number in the place of the commands that the refill at hand still has to send. -/
def withRefill (e : Exchange τ) (refill : Option Nat) : Exchange τ :=
  e.withClient { e.client with refill }

/-- Put another phase and other tasks in the place of those of the client. -/
def enter (e : Exchange τ) (phase : Phase) (tasks : List Task) : Exchange τ :=
  e.withClient { e.client with phase, tasks }

/-- What a step of the task queue does: the task that it begins, the exchange afterwards and what
the client tells. -/
inductive Deed (transport : Transport τ) (id : Uuid) (e : Exchange τ) :
    Option Task → Exchange τ → List ClientEvent → Prop where
  /-- There is nothing to do. -/
  | rest (hrefill : e.client.refill = none) (htasks : e.client.tasks = []) :
    Deed transport id e none e []
  /-- The refill at hand ends. -/
  | filled (hrefill : e.client.refill = some 0) :
    Deed transport id e none ((e.enter .standby e.client.tasks).withRefill none)
      [.bufferFilled e.client.window]
  /-- The refill at hand sends a command; if that is refused, it ends. -/
  | filling (left : Nat) (hrefill : e.client.refill = some (left + 1)) {e' : Exchange τ}
      {events : List ClientEvent} (h : HandsOver transport ⟨id, .fillBuffer⟩ e e' events) :
    Deed transport id e none
      (e'.withRefill (if e'.client.phase = .stopped then none else some left)) events
  /-- The server is asked to start. -/
  | started (rest : List Task) (hrefill : e.client.refill = none)
      (htasks : e.client.tasks = .start :: rest) (hphase : e.client.phase = .stopped)
      {e' : Exchange τ} {events : List ClientEvent}
      (h : HandsOver transport ⟨id, .start⟩ (e.enter .waitingForServerStart rest) e' events) :
    Deed transport id e (some .start) e' events
  /-- The client stops. -/
  | stopped (rest : List Task) (hrefill : e.client.refill = none)
      (htasks : e.client.tasks = .stop :: rest) :
    Deed transport id e (some .stop) (e.enter .stopped rest) []
  /-- A refill begins. -/
  | refilled (task : Task) (rest : List Task) (hrefill : e.client.refill = none)
      (htasks : e.client.tasks = task :: rest) (hfills : task.Fills)
      (hidle : ¬ task.Idle e.client.phase) :
    Deed transport id e (some task)
      ((e.enter .fillingServerBuffer rest).withRefill (some e.client.window)) []
  /-- The client stops because the server is gone. -/
  | lost (rest : List Task) (hrefill : e.client.refill = none)
      (htasks : e.client.tasks = .serverGone :: rest) (hphase : e.client.phase ≠ .stopped) :
    Deed transport id e (some .serverGone) (e.enter .stopped rest) [.serverGone]
  /-- The oldest task does nothing. -/
  | idle (task : Task) (rest : List Task) (hrefill : e.client.refill = none)
      (htasks : e.client.tasks = task :: rest) (hidle : task.Idle e.client.phase) :
    Deed transport id e (some task) (e.enter e.client.phase rest) []

/-- The task that a step of the task queue begins. -/
def next? (e : Exchange τ) : Option Task :=
  if e.client.refill = none then e.client.tasks.head? else none

/-- What a task does when it is begun. -/
theorem deed_begin (hrefill : e.client.refill = none) {task : Task} {rest : List Task}
    (htasks : e.client.tasks = task :: rest) (transport : Transport τ) (id : Uuid) :
    Deed transport id e (some task) (e.step transport (.task id)).1
      (e.step transport (.task id)).2 := by
  have hstep : e.client.taskStep? (recording transport) id (e.wire, e.handed) =
      some (Client.begin_ (recording transport) id { e.client with tasks := rest }
        (e.wire, e.handed) task) := Client.taskStep?_cons hrefill htasks
  have hanswer (htask : task = .serverGone ∨ task.Fills) (hstruck : ¬ task.Idle e.client.phase →
      Deed transport id e (some task)
        (e.withClient (Client.struck { e.client with tasks := rest } task).1)
        (Client.struck { e.client with tasks := rest } task).2) :
      Deed transport id e (some task) (e.step transport (.task id)).1
        (e.step transport (.task id)).2 := by
    rw [Client.begin_answer htask] at hstep
    by_cases hidle : task.Idle e.client.phase
    · rw [if_pos hidle] at hstep
      rw [step_task_some hstep]
      exact .idle task rest hrefill htasks hidle
    · rw [if_neg hidle] at hstep
      rw [step_task_some hstep]
      exact hstruck hidle
  cases task with
  | start =>
    by_cases hphase : e.client.phase = .stopped
    · rw [Client.begin_, if_pos hphase] at hstep
      have hsend := handsOver_send transport id .start (e.enter .waitingForServerStart rest)
        (fun h => by cases h) rfl
      rw [step_task_some hstep]
      exact .started rest hrefill htasks hphase hsend
    · rw [Client.begin_, if_neg hphase] at hstep
      rw [step_task_some hstep]
      exact .idle .start rest hrefill htasks hphase
  | stop =>
    rw [step_task_some hstep]
    exact .stopped rest hrefill htasks
  | serverDidStart =>
    exact hanswer (.inr (.inl rfl)) (.refilled _ rest hrefill htasks (.inl rfl))
  | needBuffer => exact hanswer (.inr (.inr rfl)) (.refilled _ rest hrefill htasks (.inr rfl))
  | serverGone => exact hanswer (.inl rfl) (.lost rest hrefill htasks)

/-- A step of the task queue is a deed. -/
theorem deed_task (h : e.Fitting) (transport : Transport τ) (id : Uuid) :
    Deed transport id e e.next? (e.step transport (.task id)).1
      (e.step transport (.task id)).2 := by
  rcases e.client.refill_cases with hrefill | hrefill | ⟨left, hrefill⟩
  · rw [next?, if_pos hrefill]
    cases htasks : e.client.tasks with
    | nil =>
      rw [step_task_none (Client.taskStep?_nil hrefill htasks)]
      exact .rest hrefill htasks
    | cons task rest => exact deed_begin hrefill htasks transport id
  · rw [next?, hrefill, if_neg (Option.some_ne_none _),
      step_task_some (Client.taskStep?_zero hrefill)]
    exact .filled hrefill
  · have hphase : e.client.phase = .fillingServerBuffer := h.mp (by rw [hrefill]; rfl)
    have hsend := handsOver_send transport id .fillBuffer e (by rw [hphase]; decide) rfl
    rw [next?, hrefill, if_neg (Option.some_ne_none _),
      step_task_some (Client.taskStep?_succ hrefill)]
    exact .filling left hrefill hsend

end Exchange

/-- A step that was taken. -/
structure Taken (τ : Type) where
  /-- The exchange before. -/
  before : Exchange τ
  /-- The step. -/
  step : ExchangeStep τ
  /-- The exchange afterwards. -/
  after : Exchange τ
  /-- What the client told. -/
  events : List ClientEvent

/-- Take a step, for the record. -/
def Exchange.taken {τ : Type} (transport : Transport τ) (e : Exchange τ) (x : ExchangeStep τ) :
    Taken τ := ⟨e, x, (e.step transport x).1, (e.step transport x).2⟩

namespace Taken

variable {τ : Type} {transport : Transport τ} {e : Exchange τ}

/-- The task that is begun. -/
def begins (x : Taken τ) : Option Task :=
  match x.step with
  | .task _ => x.before.next?
  | _ => none

/-- The commands that are sent. -/
def sent (x : Taken τ) : List (Command Action) :=
  x.after.commands.drop x.before.commands.length

/-- The replies that come in. -/
def heard (transport : Transport τ) (x : Taken τ) : List Reply :=
  match x.step with
  | .answer index answer => if x.before.waits index then answer.reply?.toList else []
  | .task _ => x.sent.flatMap fun command =>
    ((transport x.before.wire command).2.answer.bind Answer.reply?).toList
  | _ => []

/-- The endpoints that the client tells of. -/
def told (x : Taken τ) : List String := x.events.filterMap ClientEvent.endpoint?

/-- Whether a session is opened: a task to start is begun by a stopped client. -/
def Opens (x : Taken τ) : Prop :=
  x.begins = some .start ∧ x.before.client.phase = .stopped

/-- The client does nothing but tell of reconnects. -/
structure Inert (x : Taken τ) : Prop where
  /-- It stays stopped. -/
  stays : x.after.client.phase = .stopped
  /-- It sends nothing. -/
  silent : x.sent = []
  /-- It tells of nothing else. -/
  events : ∀ event ∈ x.events, ∃ endpoint, event = .reconnected endpoint

/-- What a step does, by the phase in which it finds the client. -/
structure Conduct (transport : Transport τ) (x : Taken τ) : Prop where
  /-- What is sent is on record behind what was sent before. -/
  commands : x.after.commands = x.before.commands ++ x.sent
  /-- A refill is at hand exactly while the window is being filled. -/
  fitting : x.after.Fitting
  /-- A stopped client that begins no task to start is inert. -/
  inert : x.before.client.phase = .stopped → x.begins ≠ some .start → x.Inert
  /-- A task to start asks the server to start. If that is refused, the server is lost. -/
  opens : x.Opens → ∃ id, x.step = .task id ∧ x.sent = [⟨id, .start⟩] ∧
    (x.after.client.phase = .waitingForServerStart ∧ x.events = [] ∨
      x.after.client.phase = .stopped ∧ x.events = [.serverGone])
  /-- Unless the client is stopped, a task to start is taken off the queue, and that is all. -/
  idle : x.begins = some .start → x.before.client.phase ≠ .stopped →
    x.after = x.before.enter x.before.client.phase x.before.client.tasks.tail ∧ x.events = []
  /-- Within a session only commands to fill the window are sent. -/
  fills : x.before.client.phase ≠ .stopped → ∀ command ∈ x.sent, command.action = .fillBuffer
  /-- While the client goes on it does not tell that the server is gone. -/
  goesOn : x.before.client.phase ≠ .stopped → x.after.client.phase ≠ .stopped →
    .serverGone ∉ x.events
  /-- It stops when told to, without telling, or because the server is gone, which it tells. -/
  ends : x.before.client.phase ≠ .stopped → x.after.client.phase = .stopped →
    x.events = if x.begins = some .stop then [] else [.serverGone]

/-- What a step does to the replies that wait: those that come in wait behind the others, and only a
step of the reply queue takes one off and tells of it. -/
structure Answers (transport : Transport τ) (x : Taken τ) : Prop where
  /-- A step of the reply queue looks at the oldest reply, if there is one. -/
  looks : x.step = .reply → x.heard transport = [] ∧ (
    x.before.client.replies = [] ∧ x.after.client.replies = [] ∧ x.told = [] ∨
    ∃ reply, x.before.client.replies = reply :: x.after.client.replies ∧
      x.told = reply.endpoint?.toList)
  /-- Other steps leave those that wait where they are. -/
  waits : x.step ≠ .reply →
    x.after.client.replies = x.before.client.replies ++ x.heard transport ∧ x.told = []

/-- Whatever is on record behind what was sent before is what is sent. -/
theorem sent_eq {x : Taken τ} {l : List (Command Action)}
    (h : x.after.commands = x.before.commands ++ l) : x.sent = l := by
  rw [sent, h, List.drop_left]

namespace Conduct

variable {x : Taken τ}

/-- A step that leaves the client where it is, and tells at most of reconnects. -/
theorem of_quiet (hfitting : x.before.Fitting) (hcommands : x.after.commands = x.before.commands)
    (hphase : x.after.client.phase = x.before.client.phase)
    (hrefill : x.after.client.refill = x.before.client.refill)
    (hevents : ∀ event ∈ x.events, ∃ endpoint, event = .reconnected endpoint)
    {begun : Option Task} (hbegun : x.begins = begun)
    (hstart : begun = some .start → x.before.client.phase ≠ .stopped ∧
      x.after = x.before.enter x.before.client.phase x.before.client.tasks.tail ∧ x.events = []) :
    Conduct transport x := by
  subst hbegun
  have hsent : x.sent = [] := sent_eq (by rw [hcommands, List.append_nil])
  have hgone : .serverGone ∉ x.events := fun hmem => by
    obtain ⟨endpoint, heq⟩ := hevents _ hmem
    cases heq
  refine ⟨by rw [hcommands, hsent, List.append_nil], ?_, fun hstopped _ => ?_, ?_, ?_, ?_, ?_, ?_⟩
  · rw [Exchange.Fitting, hrefill, hphase]
    exact hfitting
  · exact ⟨hphase.trans hstopped, hsent, hevents⟩
  · exact fun ⟨hbegins, hstopped⟩ => absurd hstopped (hstart hbegins).1
  · exact fun hbegins _ => (hstart hbegins).2
  · rw [hsent]
    exact fun _ command hmem => absurd hmem List.not_mem_nil
  · exact fun _ _ => hgone
  · exact fun hbefore hafter => absurd (hphase.symm.trans hafter) hbefore

/-- A step of a session that begins no task to start. -/
theorem of_busy {begun : Option Task} (hbegun : x.begins = begun) (hstart : begun ≠ some .start)
    {l : List (Command Action)} (hcommands : x.after.commands = x.before.commands ++ l)
    (hfills : ∀ command ∈ l, command.action = .fillBuffer) (hfitting : x.after.Fitting)
    (hphase : x.before.client.phase ≠ .stopped)
    (houtcome : x.after.client.phase ≠ .stopped ∧ .serverGone ∉ x.events ∨
      x.after.client.phase = .stopped ∧
        x.events = if begun = some .stop then [] else [.serverGone]) :
    Conduct transport x := by
  subst hbegun
  obtain rfl : x.sent = l := sent_eq hcommands
  refine ⟨hcommands, hfitting, fun hstopped => absurd hstopped hphase, ?_, ?_, fun _ => hfills,
    fun _ hafter => ?_, fun _ hafter => ?_⟩
  · exact fun ⟨hbegins, _⟩ => absurd hbegins hstart
  · exact fun hbegins => absurd hbegins hstart
  · exact (houtcome.resolve_right fun h => hafter h.1).2
  · exact (houtcome.resolve_left fun h => h.1 hafter).2

/-- A step that opens a session. -/
theorem of_opening {id : Uuid} (hstep : x.step = .task id)
    (hcommands : x.after.commands = x.before.commands ++ [⟨id, .start⟩])
    (hfitting : x.after.Fitting) (hopens : x.Opens)
    (houtcome : x.after.client.phase = .waitingForServerStart ∧ x.events = [] ∨
      x.after.client.phase = .stopped ∧ x.events = [.serverGone]) : Conduct transport x := by
  have hsent := sent_eq hcommands
  exact {
    commands := hsent ▸ hcommands
    fitting := hfitting
    inert := fun _ hbegins => absurd hopens.1 hbegins
    opens := fun _ => ⟨id, hstep, hsent, houtcome⟩
    idle := fun _ hbusy => absurd hopens.2 hbusy
    fills := fun hbusy => absurd hopens.2 hbusy
    goesOn := fun hbusy => absurd hopens.2 hbusy
    ends := fun hbusy => absurd hopens.2 hbusy }

/-- A deed follows the conduct of its phase. -/
theorem of_deed {before after : Exchange τ} {events : List ClientEvent} {id : Uuid}
    {begun : Option Task} (hfitting : before.Fitting) (hbegun : before.next? = begun)
    (h : Exchange.Deed transport id before begun after events) :
    Conduct transport ⟨before, .task id, after, events⟩ := by
  have hempty : before.commands = before.commands ++ [] := (List.append_nil _).symm
  have hnone : ∀ command ∈ ([] : List (Command Action)), command.action = .fillBuffer :=
    fun _ hmem => absurd hmem List.not_mem_nil
  have hquiet : ∀ event ∈ ([] : List ClientEvent), ∃ endpoint, event = .reconnected endpoint :=
    fun _ hmem => absurd hmem List.not_mem_nil
  have hfilling {n : Nat} (hrefill : before.client.refill = some n) :
      before.client.phase = .fillingServerBuffer := hfitting.mp (by rw [hrefill]; rfl)
  have hbusy {n : Nat} (hrefill : before.client.refill = some n) :
      before.client.phase ≠ .stopped := by
    rw [hfilling hrefill]
    exact fun h => by cases h
  -- Where no refill is at hand, any phase but that of filling fits.
  have hfits {e : Exchange τ} (hrefill : e.client.refill = none)
      (hphase : e.client.phase ≠ .fillingServerBuffer) : e.Fitting := by
    rw [Exchange.Fitting, hrefill]
    exact ⟨fun h => absurd h Bool.false_ne_true, fun h => absurd h hphase⟩
  cases h with
  | rest hrefill htasks =>
    exact of_quiet hfitting rfl rfl rfl hquiet hbegun fun h => by cases h
  | filled hrefill =>
    refine of_busy hbegun (fun h => by cases h) hempty hnone
      (hfits rfl fun h => by cases h) (hbusy hrefill) (.inl ⟨fun h => (by cases h), ?_⟩)
    exact fun h => by cases List.mem_singleton.mp h
  | @filling left hrefill e' _ h =>
    have hfills : ∀ command ∈ [(⟨id, .fillBuffer⟩ : Command Action)],
        command.action = .fillBuffer := fun command hmem => by rw [List.mem_singleton.mp hmem]
    rcases h.outcome with ⟨hphase, rfl⟩ | ⟨hphase, rfl⟩
    · rw [hfilling hrefill] at hphase
      have hgoes : e'.client.phase ≠ .stopped := by
        rw [hphase]
        exact fun h => by cases h
      rw [if_neg hgoes]
      exact of_busy hbegun (fun h => by cases h) h.commands hfills
        ⟨fun _ => hphase, fun _ => rfl⟩ (hbusy hrefill) (.inl ⟨hgoes, List.not_mem_nil⟩)
    · rw [if_pos hphase]
      have hdiffer : (e'.withRefill none).client.phase ≠ .fillingServerBuffer := by
        rw [show (e'.withRefill none).client.phase = .stopped from hphase]
        exact fun h => by cases h
      exact of_busy hbegun (fun h => by cases h) h.commands hfills (hfits rfl hdiffer)
        (hbusy hrefill) (.inr ⟨hphase, rfl⟩)
  | started rest hrefill htasks hphase h =>
    have hdiffer : after.client.phase ≠ .fillingServerBuffer := by
      rcases h.outcome with ⟨heq, -⟩ | ⟨heq, -⟩
      all_goals
        rw [heq]
        exact fun h => by cases h
    exact of_opening rfl h.commands (hfits (h.refill.trans hrefill) hdiffer) ⟨hbegun, hphase⟩
      h.outcome
  | stopped rest hrefill htasks =>
    by_cases hphase : before.client.phase = .stopped
    · exact of_quiet hfitting rfl hphase.symm rfl hquiet hbegun fun h => by cases h
    · exact of_busy hbegun (fun h => by cases h) hempty hnone
        (hfits hrefill fun h => by cases h) hphase (.inr ⟨rfl, rfl⟩)
  | refilled task rest hrefill htasks hfills hidle =>
    have hphase : before.client.phase ≠ .stopped := by
      rintro heq
      rcases hfills with rfl | rfl
      · exact hidle (by rw [heq]; exact fun h => by cases h)
      · exact hidle heq
    have hstart : some task ≠ some .start := by
      rcases hfills with rfl | rfl
      all_goals exact fun h => by cases h
    exact of_busy hbegun hstart hempty hnone ⟨fun _ => rfl, fun _ => rfl⟩ hphase
      (.inl ⟨fun h => (by cases h), List.not_mem_nil⟩)
  | lost rest hrefill htasks hphase =>
    exact of_busy hbegun (fun h => by cases h) hempty hnone
      (hfits hrefill fun h => by cases h) hphase (.inr ⟨rfl, rfl⟩)
  | idle task rest hrefill htasks hidle =>
    refine of_quiet hfitting rfl rfl rfl hquiet hbegun fun h => ?_
    obtain rfl := Option.some.inj h
    exact ⟨hidle, by rw [htasks, List.tail_cons], rfl⟩

/-- Every step follows the conduct of its phase. -/
theorem of_step (hfitting : e.Fitting) (transport : Transport τ) (x : ExchangeStep τ) :
    Conduct transport (e.taken transport x) := by
  -- All steps but those of the task queue leave the client in its phase.
  have hother {e' : Exchange τ} {x : ExchangeStep τ} {events : List ClientEvent}
      (hbegun : (⟨e, x, e', events⟩ : Taken τ).begins = none) (hcommands : e'.commands = e.commands)
      (hphase : e'.client.phase = e.client.phase) (hrefill : e'.client.refill = e.client.refill)
      (hevents : ∀ event ∈ events, ∃ endpoint, event = .reconnected endpoint) :
      Conduct transport ⟨e, x, e', events⟩ :=
    of_quiet hfitting hcommands hphase hrefill hevents hbegun fun h => by cases h
  have hquiet : ∀ event ∈ ([] : List ClientEvent), ∃ endpoint, event = .reconnected endpoint :=
    fun _ hmem => absurd hmem List.not_mem_nil
  cases x with
  | start | stop | rewire => exact hother rfl rfl rfl rfl hquiet
  | drop index => exact hother rfl (e.commands_release index) rfl rfl hquiet
  | answer index answer =>
    rw [Exchange.taken, Exchange.step]
    split
    next =>
      obtain ⟨hphase, hrefill, -⟩ := e.client.receive_eq answer
      exact hother rfl (e.commands_release index) hphase hrefill hquiet
    next => exact hother rfl rfl rfl rfl hquiet
  | task id => exact of_deed hfitting rfl (Exchange.deed_task hfitting transport id)
  | reply =>
    rw [Exchange.taken]
    cases hreplies : e.client.replies with
    | nil =>
      rw [Exchange.step_reply_none (Client.replyStep?_nil hreplies)]
      exact hother rfl rfl rfl rfl hquiet
    | cons reply rest =>
      rw [Exchange.step_reply_some (Client.replyStep?_cons hreplies)]
      refine hother rfl rfl rfl rfl fun event hmem => ?_
      obtain ⟨endpoint, -, rfl⟩ := Option.map_eq_some_iff.mp (Option.mem_toList.mp hmem)
      exact ⟨endpoint, rfl⟩

end Conduct

namespace Answers

/-- The reply to a command that a deed sends waits behind the others. -/
theorem of_deed {before after : Exchange τ} {events : List ClientEvent} {id : Uuid}
    {begun : Option Task} (h : Exchange.Deed transport id before begun after events) :
    Answers transport ⟨before, .task id, after, events⟩ := by
  refine ⟨fun h => (by cases h), fun _ => ?_⟩
  obtain ⟨l, hcommands, hreplies, htold⟩ : ∃ l, after.commands = before.commands ++ l ∧
      after.client.replies = before.client.replies ++ (l.flatMap fun command =>
        ((transport before.wire command).2.answer.bind Answer.reply?).toList) ∧
      events.filterMap ClientEvent.endpoint? = [] := by
    cases h with
    | rest | filled | stopped | refilled | lost | idle =>
      exact ⟨[], (List.append_nil _).symm, (List.append_nil _).symm, rfl⟩
    | filling left _ h | started _ _ _ _ h =>
      refine ⟨_, h.commands, h.replies.trans (congrArg _ (List.flatMap_singleton ..).symm), ?_⟩
      rcases h.outcome with ⟨-, rfl⟩ | ⟨-, rfl⟩
      all_goals rfl
  have hsent : (⟨before, .task id, after, events⟩ : Taken τ).sent = l := sent_eq hcommands
  exact ⟨by rw [hreplies, heard, hsent], htold⟩

/-- Every step treats the replies that wait alike. -/
theorem of_step (hfitting : e.Fitting) (transport : Transport τ) (x : ExchangeStep τ) :
    Answers transport (e.taken transport x) := by
  cases x with
  | start | stop | rewire | drop =>
    exact ⟨fun h => (by cases h), fun _ => ⟨(List.append_nil _).symm, rfl⟩⟩
  | answer index answer =>
    refine ⟨fun h => (by cases h), fun _ => ⟨?_, rfl⟩⟩
    have hheard : (e.taken transport (.answer index answer)).heard transport =
        if e.waits index then answer.reply?.toList else [] := rfl
    rw [hheard, Exchange.taken, Exchange.step]
    by_cases hwaits : e.waits index
    · rw [if_pos hwaits, if_pos hwaits]
      exact (e.client.receive_eq answer).2.2
    · rw [if_neg hwaits, if_neg hwaits]
      exact (List.append_nil _).symm
  | task id => exact of_deed (Exchange.deed_task hfitting transport id)
  | reply =>
    refine ⟨fun _ => ⟨rfl, ?_⟩, fun h => absurd rfl h⟩
    rw [Exchange.taken]
    rcases hreplies : e.client.replies with _ | ⟨reply, rest⟩
    · rw [Exchange.step_reply_none (Client.replyStep?_nil hreplies)]
      exact .inl ⟨rfl, hreplies, rfl⟩
    · rw [Exchange.step_reply_some (Client.replyStep?_cons hreplies)]
      refine .inr ⟨reply, rfl, ?_⟩
      cases reply <;> rfl

end Answers

end Taken

end PacketTunnel.Ipc
