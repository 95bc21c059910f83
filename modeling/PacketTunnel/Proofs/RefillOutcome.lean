import PacketTunnel.Proofs.TaskOrder

/-!
# How a refill ends

A refill sends its commands one by one, and while it is at hand no task is begun; whatever else
happens between its steps only adds to what waits. So the answers of the transport decide alone how
it ends: the first command that the transport does not take stops the client, and if it takes them
all the window is filled. An answer with no data takes effect later, when the task that it posted is
begun.
-/

namespace PacketTunnel.Ipc

/-- What the transport said to the commands that are sent. -/
def Taken.results {τ : Type} (transport : Transport τ) (x : Taken τ) : List Sent :=
  x.sent.map fun command => (transport x.before.wire command).2

namespace Exchange

variable {τ : Type} {transport : Transport τ} {e : Exchange τ}

/-- What a step of a refill does that has a command to send. -/
structure Fills (left : Nat) (sent : Sent) (x : Taken τ) : Prop where
  /-- The command is sent. -/
  fills : ∃ id, x.sent = [⟨id, .fillBuffer⟩]
  /-- The window is as before. -/
  window : x.after.client.window = x.before.client.window
  /-- A task may wait behind the others. -/
  tasks : x.after.client.tasks = x.before.client.tasks ++ sent.posted
  /-- If the command is taken, the refill goes on. -/
  taken : sent.failed = false → x.after.client.phase = .fillingServerBuffer ∧
    x.after.client.refill = some left ∧ x.lifecycle = []
  /-- If it is not, the refill ends, and the client is stopped and tells it. -/
  failed : sent.failed = true → x.after.client.phase = .stopped ∧
    x.after.client.refill = none ∧ x.lifecycle = [.serverGone]

theorem fills_step (transport : Transport τ) {e : Exchange τ} {left : Nat}
    (hrefill : e.client.refill = some (left + 1))
    (hphase : e.client.phase = .fillingServerBuffer) (id : Uuid) :
    Fills left (transport e.wire ⟨id, .fillBuffer⟩).2 (e.taken transport (.task id)) ∧
      (e.taken transport (.task id)).results transport =
        [(transport e.wire ⟨id, .fillBuffer⟩).2] := by
  have hbusy : e.client.phase ≠ .stopped := by
    rw [hphase]
    exact fun h => by cases h
  have hsends := Client.sends_send (recording transport) id .fillBuffer e.client
    (e.wire, e.handed)
  have hcommands := (handsOver_send transport id .fillBuffer e hbusy rfl).commands
  have hone : e.client.taskStep? (recording transport) id (e.wire, e.handed) =
      some (Client.sendOne (recording transport) id left e.client (e.wire, e.handed)) :=
    Client.taskStep?_succ hrefill
  have hstep := step_task_some hone
  have hsent : (e.taken transport (.task id)).sent = [⟨id, .fillBuffer⟩] := by
    rw [taken, hstep]
    exact Taken.sent_eq hcommands
  refine ⟨⟨⟨id, hsent⟩, ?_, ?_, ?_, ?_⟩, by rw [Taken.results, hsent]; rfl⟩
  all_goals rw [taken, hstep]
  · exact hsends.window
  · exact hsends.tasks
  · intro h
    obtain ⟨hsame, hevents⟩ := hsends.taken h
    have hfilling := hsame.trans hphase
    have hgoes := hsame.trans_ne hbusy
    exact ⟨hfilling, if_neg hgoes, congrArg (List.filter _) hevents⟩
  · intro h
    obtain ⟨hstopped, hevents⟩ := hsends.failed h hbusy
    exact ⟨hstopped, if_pos hstopped, congrArg (List.filter _) hevents⟩

/-- What is on record of a refill with so many commands to send, and where it leads. The answers of
the transport to these commands decide. `waiting` are the tasks that wait when it begins. -/
structure Ended (transport : Transport τ) (left window : Nat) (waiting : List Task)
    (record : List (Taken τ)) (last : Exchange τ) : Prop where
  /-- Nothing is sent but commands that fill the window. -/
  fills : ∀ command ∈ record.flatMap Taken.sent, command.action = .fillBuffer
  /-- The refill is at hand until the last step. -/
  lasting : ∀ x ∈ record.dropLast, x.after.client.refill ≠ none
  /-- Then it is not. -/
  finished : last.client.refill = none
  /-- If the transport does not take one of the commands, the first such command is the last one
  that is sent. The client is stopped, and tells so once. -/
  failed : ∀ k, (record.flatMap (Taken.results transport)).findIdx? Sent.failed = some k →
    k < left ∧ (record.flatMap Taken.sent).length = k + 1 ∧ last.client.phase = .stopped ∧
      record.flatMap Taken.lifecycle = [.serverGone]
  /-- If it takes them all, all of them are sent. The client stands by, and tells once that the
  window is filled. -/
  filled : (record.flatMap (Taken.results transport)).findIdx? Sent.failed = none →
    (record.flatMap Taken.sent).length = left ∧ last.client.phase = .standby ∧
      record.flatMap Taken.lifecycle = [.bufferFilled window]
  /-- No task that waits is begun, and for each answer with no data one more waits behind them. -/
  tasks : ∃ posted, last.client.tasks = waiting ++ posted ∧
    (record.flatMap (Taken.results transport)).countP (·.answer = some .noData) ≤
      posted.count .serverGone

namespace Ended

variable {left window : Nat} {waiting : List Task} {x : Taken τ} {record : List (Taken τ)}
  {last : Exchange τ}

/-- A step in front that sends and tells nothing changes nothing about how a refill ends. -/
theorem quiet (hsent : x.sent = []) (hlifecycle : x.lifecycle = [])
    (hrefill : x.after.client.refill ≠ none) (htasks : waiting <+: x.after.client.tasks)
    (h : Ended transport left window x.after.client.tasks record last) :
    Ended transport left window waiting (x :: record) last := by
  have hresults : x.results transport = [] := by rw [Taken.results, hsent]; rfl
  refine ⟨?_, ?_, h.finished, ?_, ?_, ?_⟩
  · rw [List.flatMap_cons, hsent]
    exact h.fills
  · cases record with
    | nil => exact fun _ hmem => absurd hmem List.not_mem_nil
    | cons second rest => exact List.forall_mem_cons.mpr ⟨hrefill, h.lasting⟩
  · rw [List.flatMap_cons, List.flatMap_cons, List.flatMap_cons, hresults, hsent, hlifecycle]
    exact h.failed
  · rw [List.flatMap_cons, List.flatMap_cons, List.flatMap_cons, hresults, hsent, hlifecycle]
    exact h.filled
  · obtain ⟨more, hmore⟩ := htasks
    obtain ⟨posted, hposted, hcount⟩ := h.tasks
    rw [← hmore, List.append_assoc] at hposted
    rw [List.flatMap_cons, hresults]
    exact ⟨more ++ posted, hposted, Nat.le_trans hcount
      (Nat.le_trans (Nat.le_add_left _ _) (Nat.le_of_eq List.count_append.symm))⟩

/-- An answer with no data is one task. -/
theorem count_posted (sent : Sent) :
    [sent].countP (·.answer = some .noData) = sent.posted.count .serverGone := by
  rw [Sent.posted, List.countP_singleton]
  split
  · next h => rw [if_pos (of_decide_eq_true h)]; rfl
  · next h => rw [if_neg (fun heq => h (decide_eq_true heq))]; rfl

/-- A command in front that is taken is one more. -/
theorem fill {sent : Sent} (hx : Fills left sent x) (hresults : x.results transport = [sent])
    (hsent : sent.failed = false)
    (h : Ended transport left window x.after.client.tasks record last) :
    Ended transport (left + 1) window x.before.client.tasks (x :: record) last := by
  obtain ⟨hphase, hrefill, hlifecycle⟩ := hx.taken hsent
  obtain ⟨id, hfills⟩ := hx.fills
  have hfirst : (x :: record).flatMap (Taken.results transport) =
      sent :: record.flatMap (Taken.results transport) := by
    rw [List.flatMap_cons, hresults]
    rfl
  have hlength : ((x :: record).flatMap Taken.sent).length =
      (record.flatMap Taken.sent).length + 1 := by
    rw [List.flatMap_cons, hfills]
    rfl
  have htold : (x :: record).flatMap Taken.lifecycle = record.flatMap Taken.lifecycle := by
    rw [List.flatMap_cons, hlifecycle]
    rfl
  refine ⟨?_, ?_, h.finished, ?_, ?_, ?_⟩
  · rw [List.flatMap_cons, hfills]
    exact List.forall_mem_cons.mpr ⟨rfl, h.fills⟩
  · cases record with
    | nil => exact fun _ hmem => absurd hmem List.not_mem_nil
    | cons second rest =>
      exact List.forall_mem_cons.mpr ⟨by rw [hrefill]; exact Option.some_ne_none _, h.lasting⟩
  · intro k hk
    rw [hfirst, List.findIdx?_cons, hsent, if_neg Bool.false_ne_true, Option.map_eq_some_iff] at hk
    obtain ⟨k, hk, rfl⟩ := hk
    obtain ⟨hlt, hsents, hstopped, hgone⟩ := h.failed k hk
    rw [hlength, htold, hsents]
    exact ⟨Nat.succ_lt_succ hlt, rfl, hstopped, hgone⟩
  · intro hnone
    rw [hfirst, List.findIdx?_cons, hsent, if_neg Bool.false_ne_true, Option.map_eq_none_iff]
      at hnone
    obtain ⟨hsents, hstandby, hfilled⟩ := h.filled hnone
    rw [hlength, htold, hsents]
    exact ⟨rfl, hstandby, hfilled⟩
  · obtain ⟨posted, hposted, hcount⟩ := h.tasks
    rw [hx.tasks, List.append_assoc] at hposted
    refine ⟨sent.posted ++ posted, hposted, ?_⟩
    rw [hfirst, ← List.singleton_append, List.countP_append, List.count_append, count_posted]
    exact Nat.add_le_add_left hcount _

/-- A command that is not taken ends the refill. -/
theorem fail {sent : Sent} (hx : Fills left sent x) (hresults : x.results transport = [sent])
    (hsent : sent.failed = true) :
    Ended transport (left + 1) window x.before.client.tasks [x] x.after := by
  obtain ⟨hphase, hrefill, hlifecycle⟩ := hx.failed hsent
  obtain ⟨id, hfills⟩ := hx.fills
  have hfirst : [sent].findIdx? Sent.failed = some 0 := by
    rw [List.findIdx?_cons, hsent, if_pos rfl]
  refine ⟨?_, fun _ hmem => absurd hmem List.not_mem_nil, hrefill, ?_, ?_, ?_⟩
  · rw [List.flatMap_singleton, hfills]
    exact List.forall_mem_singleton.mpr rfl
  · intro k hk
    rw [List.flatMap_singleton, hresults, hfirst, Option.some.injEq] at hk
    rw [List.flatMap_singleton, List.flatMap_singleton, hfills, hlifecycle, ← hk]
    exact ⟨Nat.succ_pos _, rfl, hphase, rfl⟩
  · intro hnone
    rw [List.flatMap_singleton, hresults, hfirst] at hnone
    exact absurd hnone (Option.some_ne_none _)
  · refine ⟨sent.posted, hx.tasks, Nat.le_of_eq ?_⟩
    rw [List.flatMap_singleton, hresults, count_posted]

/-- A refill without commands to send ends at once. -/
theorem done (transport : Transport τ) {e : Exchange τ} (hrefill : e.client.refill = some 0)
    (id : Uuid) : Ended transport 0 e.client.window e.client.tasks
      [e.taken transport (.task id)] (e.taken transport (.task id)).after := by
  rw [filled_step transport hrefill id]
  have hsent : (⟨e, .task id, (e.enter .standby e.client.tasks).withRefill none,
      [.bufferFilled e.client.window]⟩ : Taken τ).sent = [] :=
    Taken.sent_eq (List.append_nil _).symm
  refine ⟨?_, fun _ hmem => absurd hmem List.not_mem_nil, rfl, ?_, ?_, ?_⟩
  all_goals simp only [List.flatMap_singleton, Taken.results, hsent]
  · exact fun _ hmem => absurd hmem List.not_mem_nil
  · exact fun k hk => absurd hk (Option.some_ne_none _).symm
  · exact fun _ => ⟨rfl, rfl, rfl⟩
  · exact ⟨[], (List.append_nil _).symm, Nat.le_refl _⟩

end Ended

/-- A refill at hand ends once the task queue had steps enough, whatever else happens. -/
theorem exists_ended (transport : Transport τ) {e : Exchange τ} {left : Nat}
    (hrefill : e.client.refill = some left) (hphase : e.client.phase = .fillingServerBuffer)
    {steps : List (ExchangeStep τ)} (hsteps : left < steps.countP ExchangeStep.isTask) :
    ∃ job more, steps = job ++ more ∧ Ended transport left e.client.window e.client.tasks
      (e.history transport job) (e.run transport job).1 := by
  induction steps generalizing e left with
  | nil => exact absurd hsteps (Nat.not_lt_zero _)
  | cons x rest ih =>
    cases hx : x.isTask with
    | false =>
      have hby := bystands_step transport e hx
      rw [List.countP_cons_of_neg (by rw [hx]; exact Bool.false_ne_true)] at hsteps
      obtain ⟨job, more, hjob, hended⟩ := ih (hby.refill.trans hrefill) (hby.phase.trans hphase)
        hsteps
      have hbusy : (e.taken transport x).after.client.refill ≠ none := by
        rw [hby.refill]
        exact hrefill ▸ Option.some_ne_none _
      refine ⟨x :: job, more, congrArg _ hjob, ?_⟩
      rw [hby.window] at hended
      exact .quiet hby.sent hby.lifecycle hbusy hby.tasks hended
    | true =>
      obtain ⟨id, rfl⟩ : ∃ id, x = .task id := by
        cases x with
        | task id => exact ⟨id, rfl⟩
        | _ => cases hx
      rw [List.countP_cons_of_pos rfl] at hsteps
      cases left with
      | zero => exact ⟨[.task id], rest, rfl, Ended.done transport hrefill id⟩
      | succ left =>
        obtain ⟨hfills, hresults⟩ := fills_step transport hrefill hphase id
        cases hfailed : (transport e.wire ⟨id, .fillBuffer⟩).2.failed with
        | true => exact ⟨[.task id], rest, rfl, .fail hfills hresults hfailed⟩
        | false =>
          obtain ⟨hnext, hleft, -⟩ := hfills.taken hfailed
          obtain ⟨job, more, hjob, hended⟩ := ih hleft hnext (Nat.lt_of_succ_lt_succ hsteps)
          refine ⟨.task id :: job, more, congrArg _ hjob, ?_⟩
          rw [hfills.window] at hended
          exact .fill hfills hresults hfailed hended

/-- A task that asks for a refill, in a phase that has use for it, begins one. -/
theorem begun_step (transport : Transport τ) {task : Task} {rest : List Task}
    (hrefill : e.client.refill = none) (htasks : e.client.tasks = task :: rest)
    (hfills : task.Fills) (hidle : ¬ task.Idle e.client.phase) (id : Uuid) :
    e.taken transport (.task id) =
      ⟨e, .task id, (e.enter .fillingServerBuffer rest).withRefill (some e.client.window), []⟩ := by
  have hother : task ≠ .serverGone := by
    rcases hfills with rfl | rfl
    all_goals exact fun h => by cases h
  have hbegin := Client.begin_answer (.inr hfills) (recording transport) id
    { e.client with tasks := rest } (e.wire, e.handed)
  rw [if_neg hidle, Client.struck, if_neg hother] at hbegin
  rw [taken, step_task_some ((Client.taskStep?_cons hrefill htasks).trans (congrArg some hbegin))]
  rfl

/-- A refill that begins ends once the task queue had steps enough, whatever else happens, and the
first command that the transport does not take decides how. Answers with no data change nothing
about that; if the client stands by afterwards, it is lost once by the tasks that they have made
wait. -/
theorem ended_run (transport : Transport τ) {e : Exchange τ} {task : Task} {rest : List Task}
    (hrefill : e.client.refill = none) (htasks : e.client.tasks = task :: rest)
    (hfills : task.Fills) (hidle : ¬ task.Idle e.client.phase) (id : Uuid)
    {steps : List (ExchangeStep τ)}
    (hsteps : e.client.window < steps.countP ExchangeStep.isTask) :
    ∃ job more, steps = job ++ more ∧
      Ended transport e.client.window e.client.window rest
        (e.history transport (.task id :: job)) (e.run transport (.task id :: job)).1 ∧
      ((e.run transport (.task id :: job)).1.client.phase = .standby →
        LosesOnce transport (e.run transport (.task id :: job)).1) := by
  have hbegun := begun_step transport hrefill htasks hfills hidle id
  generalize hnext : (e.enter .fillingServerBuffer rest).withRefill (some e.client.window) = next
    at hbegun
  have hphase : next.client.phase = .fillingServerBuffer := hnext ▸ rfl
  have hleft : next.client.refill = some e.client.window := hnext ▸ rfl
  have hwindow : next.client.window = e.client.window := hnext ▸ rfl
  have hwaiting : next.client.tasks = rest := hnext ▸ rfl
  have hfitting : next.Fitting := ⟨fun _ => hphase, fun _ => by rw [hleft]; rfl⟩
  have hrun (job : List (ExchangeStep τ)) : (e.run transport (.task id :: job)).1 =
      ((e.taken transport (.task id)).after.run transport job).1 := rfl
  obtain ⟨job, more, hjob, hended⟩ := exists_ended transport hleft hphase hsteps
  rw [hwindow] at hended
  refine ⟨job, more, hjob, ?_, ?_⟩
  · rw [hrun, history_cons, hbegun]
    have hsent : (⟨e, .task id, next, []⟩ : Taken τ).sent = [] :=
      Taken.sent_eq (hnext ▸ (List.append_nil _).symm)
    have hbusy : next.client.refill ≠ none := by
      rw [hleft]
      exact Option.some_ne_none _
    exact hended.quiet hsent rfl hbusy (hwaiting ▸ List.prefix_refl _)
  · rw [hrun, hbegun]
    intro hstandby i later hgone hcount hstop hopens
    refine (hfitting.run transport job).lost_once ?_ hgone hcount hstop hopens
    rw [hstandby]
    exact fun h => by cases h

/-- A transport that answers the third command with no data. -/
def deserted : Transport Nat := fun n _ => (n + 1, ⟨if n = 2 then some .noData else none, false⟩)

/-- A client that is about to fill the window of a server that has started. -/
def aboutToFill : Exchange Nat :=
  ((fresh 2 0).run deserted [.start, .task (.numbered 0), .answer 0 (.reply .serverStarted),
    .reply]).1

/-- The steps behind the one that begins the refill; meanwhile the client is told to start. -/
def filling : List (ExchangeStep Nat) :=
  [.task (.numbered 2), .start, .task (.numbered 3), .task (.numbered 4), .task (.numbered 5),
    .task (.numbered 6)]

/-- The window is filled although a command was answered with no data; then the server is lost. -/
theorem ended_deserted :
    (aboutToFill.client.refill = none ∧ aboutToFill.client.tasks = [.serverDidStart] ∧
      aboutToFill.client.phase = .waitingForServerStart ∧
      aboutToFill.client.window < filling.countP ExchangeStep.isTask) ∧
    (aboutToFill.run deserted (.task (.numbered 1) :: filling)).2 = [.bufferFilled 2, .serverGone] ∧
    ∃ job more, filling = job ++ more ∧
      Ended deserted 2 2 [] (aboutToFill.history deserted (.task (.numbered 1) :: job))
        (aboutToFill.run deserted (.task (.numbered 1) :: job)).1 ∧
      ((aboutToFill.run deserted (.task (.numbered 1) :: job)).1.client.phase = .standby →
        LosesOnce deserted (aboutToFill.run deserted (.task (.numbered 1) :: job)).1) :=
  have hidle : ¬ Task.Idle .serverDidStart aboutToFill.client.phase := by decide
  have hsteps : aboutToFill.client.window < filling.countP ExchangeStep.isTask := by decide
  ⟨by decide, by decide, ended_run deserted rfl rfl (.inl rfl) hidle (.numbered 1) hsteps⟩

end Exchange

end PacketTunnel.Ipc
