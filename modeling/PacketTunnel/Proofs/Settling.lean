import PacketTunnel.Proofs.DirectStep

/-!
# Queues run empty

Whatever has been asked of clients and server, the queues have only so much to do: a step of a queue
that has work leaves less of it behind, and a step of one that has none changes nothing. So if every
queue takes a step again and again, nothing is queued in the end.
-/

namespace PacketTunnel.Ipc

variable {ω : Type}

/-- A step that a queue takes on its own. -/
def SystemStep.Own : SystemStep ω → Prop
  | .task _ _ => True
  | .reply _ => True
  | .serve _ => True
  | _ => False

instance : (x : SystemStep ω) → Decidable x.Own
  | .task _ _ | .reply _ | .serve _ => inferInstanceAs (Decidable True)
  | .start _ | .stop _ | .disconnect _ | .push _ _ | .stopServer =>
    inferInstanceAs (Decidable False)

/-- A schedule in which the queues of so many clients and of their server take their steps, each of
them again and again. -/
structure Fair (clients : Nat) (schedule : Nat → SystemStep ω) : Prop where
  /-- Nothing is asked from outside. -/
  own : ∀ k, (schedule k).Own
  /-- Every task queue has its turn. -/
  task : ∀ client < clients, ∀ k, ∃ j ≥ k, ∃ id, schedule j = .task client id
  /-- Every reply queue has its turn. -/
  reply : ∀ client < clients, ∀ k, ∃ j ≥ k, schedule j = .reply client
  /-- The server has its turn. -/
  serve : ∀ k, ∃ j ≥ k, ∃ id, schedule j = .serve id

/-- A fair schedule is fair from any time on. -/
theorem Fair.shift {clients : Nat} {schedule : Nat → SystemStep ω} (h : Fair clients schedule)
    (m : Nat) : Fair clients fun k => schedule (m + k) := by
  have hlater {k j : Nat} (hj : j ≥ m + k) : ∃ i ≥ k, m + i = j := ⟨j - m, by omega, by omega⟩
  refine ⟨fun k => h.own (m + k), ?_, ?_, ?_⟩
  · intro client hclient k
    obtain ⟨j, hj, id, heq⟩ := h.task client hclient (m + k)
    obtain ⟨i, hi, rfl⟩ := hlater hj
    exact ⟨i, hi, id, heq⟩
  · intro client hclient k
    obtain ⟨j, hj, heq⟩ := h.reply client hclient (m + k)
    obtain ⟨i, hi, rfl⟩ := hlater hj
    exact ⟨i, hi, heq⟩
  · intro k
    obtain ⟨j, hj, id, heq⟩ := h.serve (m + k)
    obtain ⟨i, hi, rfl⟩ := hlater hj
    exact ⟨i, hi, id, heq⟩

/-- The queues of one client and of its server in turn, with an identifier for each time. -/
def inTurn (ids : Nat → Uuid) (k : Nat) : SystemStep ω :=
  match k % 3 with
  | 0 => .task 0 (ids k)
  | 1 => .reply 0
  | _ => .serve (ids k)

/-- Taking turns is fair. -/
theorem fair_inTurn (ids : Nat → Uuid) : Fair 1 (inTurn ids : Nat → SystemStep ω) := by
  refine ⟨fun k => ?_, fun client hclient k => ?_, fun client hclient k => ?_, fun k => ?_⟩
  · rw [inTurn]
    split <;> trivial
  · obtain rfl : client = 0 := by omega
    have hturn : (3 * k) % 3 = 0 := by omega
    refine ⟨3 * k, by omega, ids (3 * k), ?_⟩
    simp only [inTurn, hturn]
  · obtain rfl : client = 0 := by omega
    have hturn : (3 * k + 1) % 3 = 1 := by omega
    refine ⟨3 * k + 1, by omega, ?_⟩
    simp only [inTurn, hturn]
  · have hturn : (3 * k + 2) % 3 = 2 := by omega
    refine ⟨3 * k + 2, by omega, ids (3 * k + 2), ?_⟩
    simp only [inTurn, hturn]

/-- How much a task leads to if refills send at most `n` commands. -/
def Task.weight (n : Nat) : Task → Nat
  | .start => 2 * n + 5
  | .serverDidStart => 2 * n + 2
  | .needBuffer => 2 * n + 2
  | .stop => 1
  | .serverGone => 1

/-- How much a reply leads to: the task that it stands for, and a look at it. -/
def Reply.weight (n : Nat) : Reply → Nat
  | .serverStarted => 2 * n + 3
  | .needBuffer => 2 * n + 3
  | .reconnected _ => 1

/-- How much a job leads to: the answers that it may give, and to run it. -/
def ServerJob.weight (n : Nat) : ServerJob Nat ω → Nat
  | .handle ⟨_, .start⟩ _ => 2 * n + 4
  | .handle ⟨_, .fillBuffer⟩ _ => 1
  | .push _ _ => 2 * n + 5
  | .stop => 1
  | .count => 1

/-- How much the rest of a refill leads to: each command is sent and run, and the refill ends. -/
def refillWeight (refill : Option Nat) : Nat := refill.elim 0 (2 * · + 1)

namespace Client

/-- How much a client has before it. -/
def weight (n : Nat) (c : Client) : Nat :=
  refillWeight c.refill + (c.tasks.map (Task.weight n)).sum + (c.replies.map (Reply.weight n)).sum

theorem weight_post (n : Nat) (c : Client) (task : Task) :
    (c.post task).weight n = c.weight n + task.weight n := by
  simp only [weight, post, List.map_append, List.sum_append, List.map_cons, List.map_nil,
    List.sum_cons, List.sum_nil]
  omega

theorem weight_receive (n : Nat) (c : Client) (reply : Reply) :
    (c.receive (.reply reply)).weight n = c.weight n + reply.weight n := by
  simp only [weight, receive, List.map_append, List.sum_append, List.map_cons, List.map_nil,
    List.sum_cons, List.sum_nil]
  omega

/-- The oldest task is part of what a client has before it. -/
theorem weight_of_tasks (n : Nat) {c : Client} {task : Task} {rest : List Task}
    (h : c.tasks = task :: rest) :
    c.weight n = { c with tasks := rest }.weight n + task.weight n := by
  simp only [weight, h, List.map_cons, List.sum_cons]
  omega

/-- So is the oldest reply. -/
theorem weight_of_replies (n : Nat) {c : Client} {reply : Reply} {rest : List Reply}
    (h : c.replies = reply :: rest) :
    c.weight n = { c with replies := rest }.weight n + reply.weight n := by
  simp only [weight, h, List.map_cons, List.sum_cons]
  omega

/-- So is the refill at hand. -/
theorem weight_withRefill (n : Nat) (c : Client) (refill : Option Nat) :
    { c with refill }.weight n + refillWeight c.refill = c.weight n + refillWeight refill := by
  simp only [weight]
  omega

/-- No data in answer to a command are one more task. -/
theorem weight_ask (n : Nat) (connected : Bool) (c : Client) :
    (c.ask connected).weight n = c.weight n + if connected then 0 else 1 := by
  cases connected with
  | false => exact weight_post n c .serverGone
  | true => rfl

/-- What a turn sends to the server, if the transport leads there. -/
def arrived (connected : Bool) (client : Nat) (sent : List (Command Action)) :
    List (ServerJob Nat ω) :=
  if connected then sent.map (.handle · client) else []

/-- What jobs lead to. -/
def jobsWeight (n : Nat) (jobs : List (ServerJob Nat ω)) : Nat :=
  (jobs.map (ServerJob.weight n)).sum

theorem jobsWeight_arrived (n : Nat) (connected : Bool) (client : Nat) (command : Command Action) :
    jobsWeight n (arrived connected client [command] : List (ServerJob Nat ω)) =
      if connected then (ServerJob.handle command client : ServerJob Nat ω).weight n else 0 := by
  cases connected <;> rfl

theorem jobsWeight_arrived_nil (n : Nat) (connected : Bool) (client : Nat) :
    jobsWeight n (arrived connected client [] : List (ServerJob Nat ω)) = 0 := by
  cases connected <;> rfl

/-- A turn leaves less to do than there was, what it sends included. -/
theorem Turn.weight_lt {n : Nat} {connected : Bool} {id : Uuid} {c changed : Client}
    {sent : List (Command Action)} {events : List ClientEvent}
    (h : c.Turn connected id changed sent events) (hn : c.window ≤ n) (client : Nat) :
    changed.weight n + jobsWeight n (arrived connected client sent : List (ServerJob Nat ω)) <
      c.weight n := by
  cases h with
  | filled hrefill =>
    have hweight := weight_withRefill n c none
    rw [hrefill] at hweight
    rw [jobsWeight_arrived_nil]
    show { c with refill := none }.weight n + 0 < c.weight n
    simp only [refillWeight, Option.elim] at hweight
    omega
  | filling left hrefill =>
    have hweight := weight_withRefill n (c.ask connected)
      (if c.phase = .stopped then none else some left)
    have hleft : refillWeight (if c.phase = .stopped then none else some left) ≤ 2 * left + 1 := by
      split
      · exact Nat.zero_le _
      · exact Nat.le_refl _
    have hbefore : refillWeight (some (left + 1)) = 2 * left + 3 := rfl
    rw [refill_ask, hrefill, weight_ask, hbefore] at hweight
    rw [jobsWeight_arrived]
    cases connected with
    | false =>
      simp only [Bool.false_eq_true, ite_false] at hweight ⊢
      omega
    | true =>
      simp only [ite_true, ServerJob.weight] at hweight ⊢
      omega
  | started rest hrefill htasks hphase =>
    rw [jobsWeight_arrived, weight_ask, weight_of_tasks n htasks]
    show { c with tasks := rest }.weight n + _ + _ < { c with tasks := rest }.weight n + (2 * n + 5)
    simp only [ServerJob.weight]
    split <;> omega
  | stopped rest hrefill htasks =>
    rw [jobsWeight_arrived_nil, weight_of_tasks n htasks]
    exact Nat.lt_succ_self _
  | refilled task rest hrefill htasks hfills hidle =>
    have hweight : { c with tasks := rest }.beginRefill.weight n + refillWeight c.refill =
        { c with tasks := rest }.weight n + (2 * c.window + 1) :=
      weight_withRefill n { c with tasks := rest } (some c.window)
    have htask : task.weight n = 2 * n + 2 := by
      rcases hfills with rfl | rfl <;> rfl
    have hnone : refillWeight c.refill = 0 := by
      rw [hrefill]
      rfl
    rw [hnone] at hweight
    rw [jobsWeight_arrived_nil, weight_of_tasks n htasks, htask]
    omega
  | lost rest hrefill htasks hphase =>
    rw [jobsWeight_arrived_nil, weight_of_tasks n htasks]
    exact Nat.lt_succ_self _
  | idle task rest hrefill htasks hidle =>
    have htask : 0 < task.weight n := by
      cases task <;> exact Nat.succ_pos _
    rw [jobsWeight_arrived_nil, weight_of_tasks n htasks]
    omega

/-- A client with a refill at hand or a task has a step to take. -/
theorem exists_taskStep? {τ : Type} {c : Client} (h : c.refill ≠ none ∨ c.tasks ≠ [])
    (transport : Transport τ) (id : Uuid) (t : τ) :
    ∃ turn, c.taskStep? transport id t = some turn := by
  rcases c.refill_cases with hrefill | hrefill | ⟨left, hrefill⟩
  · rcases htasks : c.tasks with _ | ⟨task, rest⟩
    · rcases h with h | h
      · exact absurd hrefill h
      · exact absurd htasks h
    · exact ⟨_, taskStep?_cons hrefill htasks⟩
  · exact ⟨_, taskStep?_zero hrefill⟩
  · exact ⟨_, taskStep?_succ hrefill⟩

/-- A turn leaves the size of refills as it is. -/
theorem Turn.window_eq {connected : Bool} {id : Uuid} {c changed : Client}
    {sent : List (Command Action)} {events : List ClientEvent}
    (h : c.Turn connected id changed sent events) : changed.window = c.window := by
  cases h with
  | filling => cases connected <;> rfl
  | started => cases connected <;> rfl
  | filled | stopped | refilled | lost | idle => rfl

/-- A reply that was looked at leaves less to do. -/
theorem weight_replyStep?_lt (n : Nat) {c changed : Client} {events : List ClientEvent}
    (h : c.replyStep? = some (changed, events)) : changed.weight n < c.weight n := by
  rcases hreplies : c.replies with _ | ⟨reply, rest⟩
  · rw [replyStep?_nil hreplies] at h
    exact absurd h.symm (Option.some_ne_none _)
  · rw [weight_of_replies n hreplies]
    rw [replyStep?, hreplies] at h
    cases reply with
    | serverStarted =>
      obtain ⟨rfl, -⟩ := Prod.mk.inj (Option.some.inj h)
      rw [weight_post]
      exact Nat.lt_succ_self _
    | needBuffer =>
      obtain ⟨rfl, -⟩ := Prod.mk.inj (Option.some.inj h)
      rw [weight_post]
      exact Nat.lt_succ_self _
    | reconnected endpoint =>
      obtain ⟨rfl, -⟩ := Prod.mk.inj (Option.some.inj h)
      exact Nat.lt_succ_self _

end Client

namespace Direct

/-- How much clients and server have before them. -/
def weight (n : Nat) (d : Direct ω) : Nat :=
  (d.links.map (·.client.weight n)).sum + Client.jobsWeight n d.jobs

/-- How many commands the refills of each client send. -/
def windows (d : Direct ω) : List Nat := d.links.map (·.client.window)

/-- Whether a queue has work for a step that it takes. -/
def Ready (d : Direct ω) : SystemStep ω → Prop
  | .task client _ => ∃ link, d.links[client]? = some link ∧
    (link.client.refill ≠ none ∨ link.client.tasks ≠ [])
  | .reply client => ∃ link, d.links[client]? = some link ∧ link.client.replies ≠ []
  | .serve _ => d.jobs ≠ []
  | _ => False

/-- Whether nothing is queued or under way. -/
def Quiet (d : Direct ω) : Prop :=
  d.jobs = [] ∧ ∀ link ∈ d.links,
    link.client.refill = none ∧ link.client.tasks = [] ∧ link.client.replies = []

/-- A client that changes changes the sum by as much. -/
theorem sum_modify {links : List Link} {client : Nat} {link : Link}
    (h : links[client]? = some link) (f : Link → Nat) (change : Link → Link) :
    ((links.modify client change).map f).sum + f link = (links.map f).sum + f (change link) := by
  induction links generalizing client with
  | nil => exact absurd h (Option.some_ne_none link).symm
  | cons first rest ih =>
    cases client with
    | zero =>
      obtain rfl := Option.some.inj h
      simp only [List.modify_zero_cons, List.map_cons, List.sum_cons]
      omega
    | succ client =>
      have hrest := ih h
      simp only [List.modify_succ_cons, List.map_cons, List.sum_cons]
      omega

theorem weight_modifyClient (n : Nat) {d : Direct ω} {client : Nat} {link : Link}
    (h : d.links[client]? = some link) (change : Client → Client) :
    (d.modifyClient client change).weight n + link.client.weight n =
      d.weight n + (change link.client).weight n := by
  have hsum := sum_modify h (·.client.weight n) fun l => { l with client := change l.client }
  simp only [weight, modifyClient, modifyLink] at hsum ⊢
  omega

theorem weight_jobs (n : Nat) (d : Direct ω) (more : List (ServerJob Nat ω)) :
    ({ d with jobs := d.jobs ++ more } : Direct ω).weight n =
      d.weight n + Client.jobsWeight n more := by
  simp only [weight, Client.jobsWeight, List.map_append, List.sum_append]
  omega

/-- An answer weighs as much as the reply in it, if there is a client to receive it. -/
theorem weight_receive_le (n : Nat) (d : Direct ω) (client : Nat) (reply : Reply) :
    (d.modifyClient client (·.receive (.reply reply))).weight n ≤ d.weight n + reply.weight n := by
  rcases hlink : d.links[client]? with _ | link
  · have hlinks : (d.modifyClient client (·.receive (.reply reply))).links = d.links :=
      List.modify_eq_self (List.getElem?_eq_none_iff.mp hlink)
    rw [weight, hlinks]
    exact Nat.le_add_right ..
  · have hsum := weight_modifyClient n hlink (·.receive (.reply reply))
    have hweight := Client.weight_receive n link.client reply
    simp only [hweight] at hsum
    omega

/-- A job that has been run is no longer before the server. -/
theorem weight_served (n : Nat) {d : Direct ω} {job : ServerJob Nat ω}
    {rest : List (ServerJob Nat ω)} (h : d.jobs = job :: rest) (slots : List (Slot Nat)) :
    d.weight n = ({ d with slots, jobs := rest } : Direct ω).weight n + job.weight n := by
  simp only [weight, h, Client.jobsWeight, List.map_cons, List.sum_cons]
  omega

/-- The server has less before it once it has run a job, and so have all together. -/
theorem Serve.weight_lt {n : Nat} {d d' : Direct ω} {output : List (SystemOutput ω)}
    (h : d.Serve d' output) (hjobs : d.jobs ≠ []) : d'.weight n < d.weight n := by
  cases h with
  | nothing hnone => exact absurd hnone hjobs
  | start id client rest hjobs =>
    have hserved := weight_served n hjobs []
    have hanswer := weight_receive_le n { d with slots := [], jobs := rest } client .serverStarted
    simp only [ServerJob.weight, Reply.weight] at hserved hanswer
    omega
  | fill id client rest hjobs =>
    rw [weight_served n hjobs]
    exact Nat.lt_succ_self _
  | underflow endpoint observer rest hjobs hslots =>
    rw [weight_served n hjobs d.slots]
    exact Nat.lt_add_of_pos_right (Nat.succ_pos _)
  | pair endpoint observer rest first last hjobs hslots =>
    have hserved := weight_served n hjobs []
    have hasked := weight_receive_le n { d with slots := [], jobs := rest } last.handler
      .needBuffer
    have hanswer := weight_receive_le n ({ d with slots := [], jobs := rest }.modifyClient
      last.handler (·.receive (.reply .needBuffer))) first.handler (.reconnected endpoint)
    simp only [ServerJob.weight, Reply.weight] at hserved hasked hanswer
    omega
  | pushed endpoint observer rest first slots hjobs hslots hlength =>
    have hserved := weight_served n hjobs slots
    have hanswer := weight_receive_le n { d with slots, jobs := rest } first.handler
      (.reconnected endpoint)
    simp only [ServerJob.weight, Reply.weight] at hserved hanswer
    omega
  | stop rest hjobs =>
    rw [weight_served n hjobs]
    exact Nat.lt_succ_self _
  | count rest hjobs =>
    rw [weight_served n hjobs d.slots]
    exact Nat.lt_succ_self _

/-- A client that keeps the size of its refills keeps the sizes of all. -/
theorem windows_modifyClient {d : Direct ω} {client : Nat} {change : Client → Client}
    (h : ∀ link, d.links[client]? = some link →
      (change link.client).window = link.client.window) :
    (d.modifyClient client change).windows = d.windows := by
  apply List.ext_getElem?
  intro i
  rw [windows, windows, modifyClient, modifyLink, List.getElem?_map, List.getElem?_map,
    List.getElem?_modify]
  rcases hlink : d.links[i]? with _ | link
  · rfl
  · by_cases hi : client = i
    · subst hi
      simp only [ite_true, Option.map_eq_map, Option.map_some, h link hlink]
    · simp only [if_neg hi, Option.map_eq_map, Option.map_some]

theorem windows_receive (d : Direct ω) (client : Nat) (reply : Reply) :
    (d.modifyClient client (·.receive (.reply reply))).windows = d.windows :=
  windows_modifyClient fun _ _ => rfl

/-- The sizes of refills never change. -/
theorem windows_step (d : Direct ω) (x : SystemStep ω) : (d.step x).1.windows = d.windows := by
  cases x with
  | start client => exact windows_modifyClient fun _ _ => rfl
  | stop client => exact windows_modifyClient fun _ _ => rfl
  | disconnect client =>
    apply List.ext_getElem?
    intro i
    simp only [windows, step, modifyLink, List.getElem?_map, List.getElem?_modify]
    rcases d.links[i]? with _ | link
    · rfl
    · by_cases hi : client = i
      · simp only [if_pos hi, Option.map_eq_map, Option.map_some]
      · simp only [if_neg hi, Option.map_eq_map, Option.map_some]
  | push name endpoint => rfl
  | stopServer => rfl
  | task client id =>
    rw [step]
    rcases d.taskStep_cases client id with
      htask | ⟨link, changed, sent, events, hlink, hturn, htask⟩
    · rw [htask]
    · rw [htask]
      refine windows_modifyClient fun found hfound => ?_
      obtain rfl : link = found := Option.some.inj (hlink.symm.trans hfound)
      exact hturn.window_eq
  | reply client =>
    rw [step]
    rcases d.replyStep_cases client with hreply | ⟨link, reply, rest, hlink, _, hreply⟩
    · rw [hreply]
    · rw [hreply]
      refine windows_modifyClient fun found hfound => ?_
      obtain rfl : link = found := Option.some.inj (hlink.symm.trans hfound)
      rfl
  | serve id =>
    have hserve := d.serve_serveStep
    rw [step]
    generalize d.serveStep.1 = d', d.serveStep.2 = output at hserve
    cases hserve with
    | start id client rest hjobs => exact windows_receive ..
    | pair endpoint observer rest first last hjobs hslots =>
      rw [windows_receive, windows_receive]
      rfl
    | pushed endpoint observer rest first slots hjobs hslots hlength => exact windows_receive ..
    | nothing | fill | underflow | stop | count => rfl

/-- Finitely many sizes are bounded. -/
theorem exists_bound (sizes : List Nat) : ∃ n, ∀ size ∈ sizes, size ≤ n := by
  induction sizes with
  | nil => exact ⟨0, fun size h => absurd h List.not_mem_nil⟩
  | cons first rest ih =>
    obtain ⟨n, hn⟩ := ih
    refine ⟨max first n, List.forall_mem_cons.mpr ⟨Nat.le_max_left .., ?_⟩⟩
    intro size hsize
    exact Nat.le_trans (hn size hsize) (Nat.le_max_right ..)

/-- A queue that has work leaves less than there was. -/
theorem weight_step_lt {n : Nat} {d : Direct ω} {x : SystemStep ω} (hn : ∀ w ∈ d.windows, w ≤ n)
    (h : d.Ready x) : (d.step x).1.weight n < d.weight n := by
  cases x with
  | start | stop | disconnect | push | stopServer => exact h.elim
  | task client id =>
    obtain ⟨link, hlink, hwork⟩ := h
    obtain ⟨⟨changed, sent, events⟩, hsome⟩ :=
      Client.exists_taskStep? hwork (relay link.connected) id []
    have hwindow : link.client.window ≤ n :=
      hn _ (List.mem_map_of_mem (List.mem_of_getElem? hlink))
    have hlt := (Client.turn_of_taskStep? hsome).weight_lt (ω := ω) hwindow client
    have hweight := weight_modifyClient n
      (d := { d with jobs := d.jobs ++ Client.arrived link.connected client sent })
      hlink fun _ => changed
    rw [weight_jobs] at hweight
    have hstep : (d.step (.task client id)).1 =
        modifyClient { d with jobs := d.jobs ++ Client.arrived link.connected client sent } client
          fun _ => changed := by
      rw [step, taskStep, hlink]
      simp only [hsome]
      rfl
    rw [hstep]
    omega
  | reply client =>
    obtain ⟨link, hlink, hreplies⟩ := h
    rcases hqueue : link.client.replies with _ | ⟨reply, rest⟩
    · exact absurd hqueue hreplies
    · have hlooked := Client.replyStep?_cons hqueue
      generalize { link.client with
        replies := rest
        tasks := link.client.tasks ++ reply.task?.toList } = changed at hlooked
      have hlt := Client.weight_replyStep?_lt n hlooked
      have hweight := weight_modifyClient n hlink fun _ => changed
      have hstep : (d.step (.reply client)).1 = d.modifyClient client fun _ => changed := by
        rw [step, replyStep, hlink]
        simp only [hlooked]
      rw [hstep]
      omega
  | serve id => exact d.serve_serveStep.weight_lt h

/-- A queue that has no work changes nothing. -/
theorem step_of_not_ready {d : Direct ω} {x : SystemStep ω} (hx : x.Own) (h : ¬ d.Ready x) :
    (d.step x).1 = d := by
  cases x with
  | start | stop | disconnect | push | stopServer => exact hx.elim
  | task client id =>
    rw [step, taskStep]
    rcases hlink : d.links[client]? with _ | link
    · rfl
    · have hidle : ¬ (link.client.refill ≠ none ∨ link.client.tasks ≠ []) :=
        fun hwork => h ⟨link, hlink, hwork⟩
      obtain ⟨hrefill, htasks⟩ := not_or.mp hidle
      simp only [Client.taskStep?_nil (Decidable.not_not.mp hrefill) (Decidable.not_not.mp htasks)]
  | reply client =>
    rw [step, replyStep]
    rcases hlink : d.links[client]? with _ | link
    · rfl
    · have hidle : ¬ link.client.replies ≠ [] := fun hwork => h ⟨link, hlink, hwork⟩
      simp only [Client.replyStep?_nil (Decidable.not_not.mp hidle)]
  | serve id =>
    rcases hjobs : d.jobs with _ | ⟨job, rest⟩
    · rw [step, serveStep_nil hjobs]
    · exact absurd (fun hnil => List.cons_ne_nil job rest (hjobs.symm.trans hnil)) h

/-- Queues that take steps leave less than there was, or change nothing. -/
theorem run_eq_or_weight_lt {n : Nat} {d : Direct ω} (hn : ∀ w ∈ d.windows, w ≤ n)
    {steps : List (SystemStep ω)} (hown : ∀ x ∈ steps, x.Own) :
    (d.run steps).1 = d ∨ (d.run steps).1.weight n < d.weight n := by
  induction steps generalizing d with
  | nil => exact .inl rfl
  | cons x rest ih =>
    obtain ⟨hx, hrest⟩ := List.forall_mem_cons.mp hown
    have hnext := ih (d := (d.step x).1) (d.windows_step x ▸ hn) hrest
    by_cases hready : d.Ready x
    · have hlt := weight_step_lt hn hready
      rw [run_cons]
      rcases hnext with heq | hless
      · rw [heq]
        exact .inr hlt
      · exact .inr (Nat.lt_trans hless hlt)
    · rw [step_of_not_ready hx hready] at hnext
      rw [run_cons, step_of_not_ready hx hready]
      exact hnext

/-- If something is queued, a queue has work for a step of its own. -/
theorem exists_ready {d : Direct ω} (h : ¬ d.Quiet) :
    d.jobs ≠ [] ∨ ∃ client < d.links.length, ∃ link, d.links[client]? = some link ∧
      ((link.client.refill ≠ none ∨ link.client.tasks ≠ []) ∨ link.client.replies ≠ []) := by
  rcases Decidable.em (d.jobs.isEmpty = true) with hjobs | hjobs
  · refine .inr (Classical.byContradiction fun hnone => h ⟨List.isEmpty_iff.mp hjobs, ?_⟩)
    intro link hlink
    obtain ⟨client, hclient⟩ := List.getElem?_of_mem hlink
    have hlt := (List.getElem?_eq_some_iff.mp hclient).1
    have hidle : ¬ ((link.client.refill ≠ none ∨ link.client.tasks ≠ []) ∨
        link.client.replies ≠ []) := fun hwork => hnone ⟨client, hlt, link, hclient, hwork⟩
    obtain ⟨htask, hreplies⟩ := not_or.mp hidle
    obtain ⟨hrefill, htasks⟩ := not_or.mp htask
    exact ⟨Decidable.not_not.mp hrefill, Decidable.not_not.mp htasks,
      Decidable.not_not.mp hreplies⟩
  · exact .inl fun hnil => hjobs (List.isEmpty_iff.mpr hnil)

/-- The queue that has work gets its turn. -/
theorem ready_of_fair {d : Direct ω} (h : ¬ d.Quiet) {schedule : Nat → SystemStep ω}
    (hfair : Fair d.links.length schedule) : ∃ j, d.Ready (schedule j) := by
  rcases exists_ready h with hjobs | ⟨client, hclient, link, hlink, hwork | hreplies⟩
  · obtain ⟨j, _, id, hj⟩ := hfair.serve 0
    exact ⟨j, hj ▸ hjobs⟩
  · obtain ⟨j, _, id, hj⟩ := hfair.task client hclient 0
    exact ⟨j, hj ▸ ⟨link, hlink, hwork⟩⟩
  · obtain ⟨j, _, hj⟩ := hfair.reply client hclient 0
    exact ⟨j, hj ▸ ⟨link, hlink, hreplies⟩⟩

/-- Under a fair schedule there comes a time when there is less to do than there was. -/
theorem exists_weight_lt {n : Nat} {d : Direct ω} (hn : ∀ w ∈ d.windows, w ≤ n) (h : ¬ d.Quiet)
    {schedule : Nat → SystemStep ω} (hfair : Fair d.links.length schedule) :
    ∃ k, (d.run ((List.range k).map schedule)).1.weight n < d.weight n := by
  obtain ⟨j, hready⟩ := ready_of_fair h hfair
  have hown : ∀ x ∈ (List.range j).map schedule, x.Own := by
    intro x hx
    obtain ⟨i, _, rfl⟩ := List.mem_map.mp hx
    exact hfair.own i
  rcases run_eq_or_weight_lt hn hown with heq | hlt
  · refine ⟨j + 1, ?_⟩
    rw [List.range_succ, List.map_append, run_append, heq]
    exact weight_step_lt hn hready
  · exact ⟨j, hlt⟩

theorem windows_run (d : Direct ω) (steps : List (SystemStep ω)) :
    (d.run steps).1.windows = d.windows := by
  induction steps generalizing d with
  | nil => rfl
  | cons x rest ih => exact (ih (d.step x).1).trans (d.windows_step x)

theorem length_links_run (d : Direct ω) (steps : List (SystemStep ω)) :
    (d.run steps).1.links.length = d.links.length := by
  have hwindows := congrArg List.length (d.windows_run steps)
  rwa [windows, windows, List.length_map, List.length_map] at hwindows

/-- Under a fair schedule nothing is queued in the end. -/
theorem quiet_of_fair {d : Direct ω} {schedule : Nat → SystemStep ω}
    (hfair : Fair d.links.length schedule) :
    ∃ k, (d.run ((List.range k).map schedule)).1.Quiet := by
  obtain ⟨n, hn⟩ := exists_bound d.windows
  induction hweight : d.weight n using Nat.strongRecOn generalizing d schedule with
  | ind weight ih =>
    by_cases hquiet : d.Quiet
    · exact ⟨0, hquiet⟩
    · obtain ⟨j, hlt⟩ := exists_weight_lt hn hquiet hfair
      have hlinks := d.length_links_run ((List.range j).map schedule)
      have hrest := (hfair.shift j)
      rw [← hlinks] at hrest
      obtain ⟨k, hk⟩ := ih _ (hweight ▸ hlt) hrest (d.windows_run _ ▸ hn) rfl
      refine ⟨j + k, ?_⟩
      rw [List.range_add, List.map_append, List.map_map, run_append]
      exact hk

end Direct

namespace System

theorem isQuiet_of_quiet {s : System ω} (h : s.server.Running) (hquiet : s.direct.Quiet) :
    s.isQuiet := by
  refine isQuiet_of_direct h hquiet.1 (List.all_eq_true.mpr fun link hlink => ?_)
  obtain ⟨hrefill, htasks, hreplies⟩ := hquiet.2 link hlink
  rw [hrefill, htasks, hreplies]
  rfl

/-- If every queue takes a step again and again and nothing is asked from outside, nothing is queued
in the end. -/
theorem isQuiet_of_fair {s : System ω} (h : s.server.Running) {schedule : Nat → SystemStep ω}
    (hfair : Fair s.links.length schedule) :
    ∃ k, (s.run ((List.range k).map schedule)).1.isQuiet := by
  obtain ⟨k, hk⟩ := Direct.quiet_of_fair (d := s.direct) hfair
  refine ⟨k, isQuiet_of_quiet (run_direct h _).1 ?_⟩
  rw [direct_run h]
  exact hk

/-- Clients neither come nor go. -/
theorem length_links_run {s : System ω} (h : s.server.Running) (steps : List (SystemStep ω)) :
    (s.run steps).1.links.length = s.links.length := by
  rw [← direct_links, direct_run h, Direct.length_links_run, direct_links]

end System

end PacketTunnel.Ipc
