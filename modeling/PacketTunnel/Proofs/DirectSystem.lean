import PacketTunnel.Ipc.System
import PacketTunnel.Proofs.ClientTurn
import PacketTunnel.Proofs.IpcCodec

/-!
# Clients and their server, without bytes

Every message reads as it was written and the server's worker never stops, so clients and server
behave as if they handed each other commands and replies as they are. The direct system does this:
its server is the list of slots with the list of jobs that wait. A step of the system is the same
step of the direct system.
-/

namespace PacketTunnel.Ipc

variable {ω : Type}

namespace SerialQueue

variable {σ ι ε ρ : Type}

/-- The jobs that wait, the oldest first. -/
def jobs (q : SerialQueue σ ι) : List ι :=
  q.channel.filterMap fun
    | .run _ job => some job
    | .shutdown => none

/-- The worker runs, and nobody has asked it to stop. -/
def Running (q : SerialQueue σ ι) : Prop := q.stopped = false ∧ .shutdown ∉ q.channel

theorem running_fresh (state : σ) : Running (fresh state : SerialQueue σ ι) :=
  ⟨rfl, List.not_mem_nil⟩

@[simp] theorem jobs_push (q : SerialQueue σ ι) (job : ι) :
    (q.push job).jobs = q.jobs ++ [job] := by
  simp only [jobs, push, List.filterMap_append, List.filterMap_cons, List.filterMap_nil]

@[simp] theorem state_push (q : SerialQueue σ ι) (job : ι) : (q.push job).state = q.state := rfl

theorem Running.push {q : SerialQueue σ ι} (h : q.Running) (job : ι) : (q.push job).Running := by
  refine ⟨h.1, ?_⟩
  simp only [SerialQueue.push, List.mem_append, List.mem_singleton, reduceCtorEq, or_false]
  exact h.2

theorem Running.post {q : SerialQueue σ ι} (h : q.Running) (job : ι) :
    q.post job = .ok (q.push job, q.nextTicket) := by
  simp only [SerialQueue.post, h.1, Bool.false_eq_true, ite_false]

/-- Several jobs go behind those that wait. -/
theorem Running.foldl_push {α : Type} {q : SerialQueue σ ι} (h : q.Running) (job : α → ι)
    (l : List α) :
    (l.foldl (fun q a => q.push (job a)) q).Running ∧
      (l.foldl (fun q a => q.push (job a)) q).state = q.state ∧
      (l.foldl (fun q a => q.push (job a)) q).jobs = q.jobs ++ l.map job := by
  induction l generalizing q with
  | nil => exact ⟨h, rfl, (List.append_nil _).symm⟩
  | cons a rest ih =>
    obtain ⟨hrunning, hstate, hjobs⟩ := ih (h.push (job a))
    refine ⟨hrunning, hstate, ?_⟩
    rw [List.foldl_cons, hjobs, jobs_push, List.append_assoc]
    rfl

/-- A worker that nobody stops has an empty channel without jobs. -/
theorem Running.channel_eq_nil {q : SerialQueue σ ι} (h : q.Running) (hj : q.jobs = []) :
    q.channel = [] := by
  cases hc : q.channel with
  | nil => rfl
  | cons m rest =>
    cases m with
    | run ticket job => simp only [jobs, hc, List.filterMap_cons, reduceCtorEq] at hj
    | shutdown => exact absurd (hc ▸ List.mem_cons_self ..) h.2

/-- A worker that nobody stops has nothing to do without jobs. -/
theorem Running.step?_nil {q : SerialQueue σ ι} (h : q.Running) (w : Worker σ ι ε ρ)
    (hj : q.jobs = []) : q.step? w = none := by
  rw [step?, h.channel_eq_nil hj]

/-- A worker that nobody stops runs the oldest job; what it posts goes behind the others. -/
theorem Running.step?_cons {q : SerialQueue σ ι} (h : q.Running) (w : Worker σ ι ε ρ) {job : ι}
    {rest : List ι} (hj : q.jobs = job :: rest) :
    ∃ q' outcomes, q.step? w = some (q', (w job q.state).effects, outcomes) ∧
      q'.Running ∧ q'.state = (w job q.state).state ∧
      q'.jobs = rest ++ (w job q.state).posted := by
  cases hc : q.channel with
  | nil => simp only [jobs, hc, List.filterMap_nil, reduceCtorEq] at hj
  | cons m channel =>
    cases m with
    | shutdown => exact absurd (hc ▸ List.mem_cons_self ..) h.2
    | run ticket found =>
      simp only [jobs, hc, List.filterMap_cons, List.cons.injEq] at hj
      obtain ⟨rfl, hrest⟩ := hj
      have hafter :
          ({ q with state := (w found q.state).state, channel } : SerialQueue σ ι).Running :=
        ⟨h.1, fun hm => h.2 (hc ▸ List.mem_cons_of_mem _ hm)⟩
      obtain ⟨hrunning, hstate, hjobs⟩ := hafter.foldl_push id (w found q.state).posted
      refine ⟨_, [outcomeOf ticket (w found q.state).result], ?_, hrunning, hstate, ?_⟩
      · simp only [step?, hc]
        rfl
      · rw [hjobs, List.map_id, ← hrest]
        rfl

end SerialQueue

/-- Clients and a server that hand each other commands and replies. -/
structure Direct (ω : Type) where
  /-- The clients. -/
  links : List Link
  /-- The slots of the server, the oldest first. -/
  slots : List (Slot Nat)
  /-- The jobs that wait for the server, the oldest first. -/
  jobs : List (ServerJob Nat ω)

namespace Direct

/-- Change a link. -/
def modifyLink (d : Direct ω) (client : Nat) (change : Link → Link) : Direct ω :=
  { d with links := d.links.modify client change }

/-- Change a client. -/
def modifyClient (d : Direct ω) (client : Nat) (change : Client → Client) : Direct ω :=
  d.modifyLink client fun l => { l with client := change l.client }

/-- Post a job to the server. -/
def post (d : Direct ω) (job : ServerJob Nat ω) : Direct ω := { d with jobs := d.jobs ++ [job] }

/-- A step of a client's task queue. -/
def taskStep (d : Direct ω) (client : Nat) (id : Uuid) : Direct ω × List (SystemOutput ω) :=
  match d.links[client]? with
  | none => (d, [])
  | some link =>
    match link.client.taskStep? (relay link.connected) id [] with
    | none => (d, [])
    | some (changed, sent, events) =>
      let arrived := if link.connected then sent.map (.handle · client) else []
      (modifyClient { d with jobs := d.jobs ++ arrived } client fun _ => changed,
        sent.map (.sent client ·.action) ++ events.map (.event client))

/-- A step of a client's reply queue. -/
def replyStep (d : Direct ω) (client : Nat) : Direct ω × List (SystemOutput ω) :=
  match d.links[client]? with
  | none => (d, [])
  | some link =>
    match link.client.replyStep? with
    | none => (d, [])
    | some (changed, events) => (d.modifyClient client fun _ => changed, events.map (.event client))

/-- Let what the server did reach clients and pushes. -/
def performAll (d : Direct ω) : List (ServerEffect Nat ω) → Direct ω × List (SystemOutput ω)
  | [] => (d, [])
  | .answer client reply :: rest =>
    performAll (d.modifyClient client (·.receive (.reply reply))) rest
  | .drop _ :: rest => d.performAll rest
  | .observe name result :: rest =>
    let (d, output) := d.performAll rest
    (d, .pushed name result :: output)

/-- A step of the server. -/
def serveStep (d : Direct ω) : Direct ω × List (SystemOutput ω) :=
  match d.jobs with
  | [] => (d, [])
  | job :: jobs =>
    let done := Window.worker System.handling job d.slots
    performAll { d with slots := done.state, jobs } done.effects

/-- Take a step. -/
def step (d : Direct ω) : SystemStep ω → Direct ω × List (SystemOutput ω)
  | .start client => (d.modifyClient client (·.post .start), [])
  | .stop client => (d.modifyClient client (·.post .stop), [])
  | .disconnect client => (d.modifyLink client fun l => { l with connected := false }, [])
  | .push name endpoint => (d.post (.push endpoint (some name)), [])
  | .stopServer => (d.post .stop, [])
  | .task client id => d.taskStep client id
  | .reply client => d.replyStep client
  | .serve _ => d.serveStep

/-- Take steps one after the other. -/
def run (d : Direct ω) : List (SystemStep ω) → Direct ω × List (SystemOutput ω)
  | [] => (d, [])
  | next :: rest =>
    let (d, output) := d.step next
    let (d, more) := d.run rest
    (d, output ++ more)

theorem run_cons (d : Direct ω) (x : SystemStep ω) (rest : List (SystemStep ω)) :
    (d.run (x :: rest)).1 = ((d.step x).1.run rest).1 := rfl

theorem output_run_cons (d : Direct ω) (x : SystemStep ω) (rest : List (SystemStep ω)) :
    (d.run (x :: rest)).2 = (d.step x).2 ++ ((d.step x).1.run rest).2 := rfl

theorem run_append (d : Direct ω) (steps more : List (SystemStep ω)) :
    (d.run (steps ++ more)).1 = ((d.run steps).1.run more).1 := by
  induction steps generalizing d with
  | nil => rfl
  | cons x rest ih => exact ih (d.step x).1

theorem output_run_append (d : Direct ω) (steps more : List (SystemStep ω)) :
    (d.run (steps ++ more)).2 = (d.run steps).2 ++ ((d.run steps).1.run more).2 := by
  induction steps generalizing d with
  | nil => rfl
  | cons x rest ih =>
    rw [List.cons_append, output_run_cons, output_run_cons, ih, run_cons, List.append_assoc]

end Direct

namespace System

/-- The system without its bytes and tickets. -/
def direct (s : System ω) : Direct ω := ⟨s.links, s.server.state, s.server.jobs⟩

@[simp] theorem direct_links (s : System ω) : s.direct.links = s.links := rfl

@[simp] theorem direct_slots (s : System ω) : s.direct.slots = s.server.state := rfl

@[simp] theorem direct_jobs (s : System ω) : s.direct.jobs = s.server.jobs := rfl

theorem postServer_running {s : System ω} (h : s.server.Running) (job : ServerJob Nat ω) :
    s.postServer job = { s with server := s.server.push job } := by
  rw [postServer, h.post]

/-- A transport hands a command to a running server, or answers with no data. -/
theorem transport_running {server : Server Nat ω} (h : server.Running) (client : Nat)
    (connected : Bool) (sent : List Action) (command : Command Action) :
    transport client connected (server, sent) command =
      ((if connected then server.push (.handle command client) else server,
        sent ++ [command.action]), ⟨if connected then none else some .noData, false⟩) := by
  cases connected with
  | false => simp only [transport, deliver, Bool.false_eq_true, ite_false]
  | true =>
    simp only [transport, deliver, ite_true, Server.handleMessage_encode, Server.handle,
      h.post, Except.map]

theorem send_running {server : Server Nat ω} (h : server.Running) (client : Nat)
    (connected : Bool) (id : Uuid) (action : Action) (c : Client) (sent : List Action) :
    Client.send (transport client connected) id action c (server, sent) =
      (c.ask connected,
        (if connected then server.push (.handle ⟨id, action⟩ client) else server,
          sent ++ [action]), []) := by
  rw [Client.send, transport_running h]
  cases connected <;> rfl

/-- What a client's step does, it does to a relay as well, and what it sent arrives if the transport
leads to the server. -/
theorem taskStep?_running {server : Server Nat ω} (h : server.Running) (c : Client) (client : Nat)
    (connected : Bool) (id : Uuid) :
    c.taskStep? (transport client connected) id (server, []) =
      (c.taskStep? (relay connected) id []).map fun (changed, sent, events) =>
        (changed, (if connected then sent.foldl (fun q c => q.push (.handle c client)) server
          else server, sent.map (·.action)), events) := by
  have hnone : server = if connected then server else server := by rw [ite_self]
  rcases c.refill_cases with hrefill | hrefill | ⟨left, hrefill⟩
  · cases htasks : c.tasks with
    | nil => simp only [Client.taskStep?, hrefill, htasks, Option.map_none]
    | cons task rest =>
      simp only [Client.taskStep?, hrefill, htasks, Option.map_some]
      cases task with
      | start =>
        simp only [Client.begin_]
        split
        · rw [send_running h, Client.send_relay]
          rfl
        · exact congrArg some (Prod.ext rfl (Prod.ext (Prod.ext hnone rfl) rfl))
      | stop => exact congrArg some (Prod.ext rfl (Prod.ext (Prod.ext hnone rfl) rfl))
      | serverDidStart =>
        simp only [Client.begin_]
        split <;> exact congrArg some (Prod.ext rfl (Prod.ext (Prod.ext hnone rfl) rfl))
      | needBuffer =>
        simp only [Client.begin_]
        split <;> exact congrArg some (Prod.ext rfl (Prod.ext (Prod.ext hnone rfl) rfl))
      | serverGone => exact congrArg some (Prod.ext rfl (Prod.ext (Prod.ext hnone rfl) rfl))
  · simp only [Client.taskStep?, hrefill, Option.map_some]
    exact congrArg some (Prod.ext rfl (Prod.ext (Prod.ext hnone rfl) rfl))
  · simp only [Client.taskStep?, hrefill, Option.map_some, Client.sendOne]
    rw [send_running h, Client.send_relay]
    rfl

/-- Handlers of clients post nothing. -/
theorem posted_worker (job : ServerJob Nat ω) (slots : List (Slot Nat)) :
    (Window.worker handling job slots).posted = [] := by
  cases job with
  | handle command handler =>
    obtain ⟨id, action⟩ := command
    cases action with
    | start => rfl
    | fillBuffer =>
      simp only [Window.worker, Window.handle, Window.keep]
      cases slots.find? (fun s => s.command.same ⟨id, .fillBuffer⟩) <;> rfl
  | push endpoint observer =>
    match slots with
    | [] => rfl
    | [_] => rfl
    | [_, _] => rfl
    | _ :: _ :: _ :: _ => rfl
  | stop => rfl
  | count => rfl

/-- Answers reach the clients as they were given. -/
theorem performAll_direct (id : Uuid) (s : System ω) (effects : List (ServerEffect Nat ω)) :
    (performAll id s effects).1.server = s.server ∧
      ((performAll id s effects).1.direct, (performAll id s effects).2) =
        s.direct.performAll effects := by
  induction effects generalizing s with
  | nil => exact ⟨rfl, rfl⟩
  | cons effect rest ih =>
    cases effect with
    | answer client reply =>
      obtain ⟨hserver, hrest⟩ := ih (s.modifyClient client (·.receive (.reply reply)))
      simp only [performAll, perform, Answer.ofBytes_encode]
      exact ⟨hserver, hrest⟩
    | drop client => exact ih s
    | observe name result =>
      obtain ⟨hserver, hrest⟩ := ih s
      simp only [performAll, perform, Direct.performAll, ← hrest]
      exact ⟨hserver, rfl⟩

theorem serveStep_direct {s : System ω} (h : s.server.Running) (id : Uuid) :
    (s.serveStep id).1.server.Running ∧
      ((s.serveStep id).1.direct, (s.serveStep id).2) = s.direct.serveStep := by
  cases hjobs : s.server.jobs with
  | nil =>
    rw [serveStep, h.step?_nil _ hjobs, Direct.serveStep, direct_jobs, hjobs]
    exact ⟨h, rfl⟩
  | cons job rest =>
    obtain ⟨server, outcomes, hstep, hrunning, hstate, hrest⟩ :=
      h.step?_cons (Window.worker handling) hjobs
    rw [posted_worker, List.append_nil] at hrest
    obtain ⟨hserver, hdirect⟩ := performAll_direct id { s with server }
      (Window.worker handling job s.server.state).effects
    rw [serveStep, hstep]
    refine ⟨by rw [hserver]; exact hrunning, ?_⟩
    rw [hdirect, Direct.serveStep, direct_jobs, hjobs, direct, hstate, hrest]
    rfl

theorem taskStep_direct {s : System ω} (h : s.server.Running) (client : Nat) (id : Uuid) :
    (s.taskStep client id).1.server.Running ∧
      ((s.taskStep client id).1.direct, (s.taskStep client id).2) =
        s.direct.taskStep client id := by
  rw [taskStep, Direct.taskStep, direct_links]
  cases s.links[client]? with
  | none => exact ⟨h, rfl⟩
  | some link =>
    simp only [taskStep?_running h]
    cases link.client.taskStep? (relay link.connected) id [] with
    | none => exact ⟨h, rfl⟩
    | some turn =>
      obtain ⟨changed, sent, events⟩ := turn
      obtain ⟨hrunning, hstate, hjobs⟩ := h.foldl_push (ServerJob.handle · client) sent
      cases link.connected with
      | false =>
        simp only [Option.map_some, Bool.false_eq_true, ite_false, List.map_map]
        refine ⟨h, Prod.ext ?_ rfl⟩
        simp only [List.append_nil]
        rfl
      | true =>
        simp only [Option.map_some, ite_true, List.map_map]
        refine ⟨hrunning, Prod.ext ?_ rfl⟩
        rw [direct, modifyClient, modifyLink, hstate, hjobs]
        rfl

theorem replyStep_direct (s : System ω) (client : Nat) :
    (s.replyStep client).1.server = s.server ∧
      ((s.replyStep client).1.direct, (s.replyStep client).2) =
        s.direct.replyStep client := by
  rw [replyStep, Direct.replyStep, direct_links]
  cases s.links[client]? with
  | none => exact ⟨rfl, rfl⟩
  | some link =>
    dsimp only
    cases link.client.replyStep? with
    | none => exact ⟨rfl, rfl⟩
    | some turn => exact ⟨rfl, rfl⟩

/-- A step of a system whose server runs is the same step of the direct system. -/
theorem step_direct {s : System ω} (h : s.server.Running) (x : SystemStep ω) :
    (s.step x).1.server.Running ∧ ((s.step x).1.direct, (s.step x).2) = s.direct.step x := by
  cases x with
  | start client => exact ⟨h, rfl⟩
  | stop client => exact ⟨h, rfl⟩
  | disconnect client => exact ⟨h, rfl⟩
  | push name endpoint =>
    rw [step, postServer_running h]
    refine ⟨h.push _, ?_⟩
    simp only [direct, SerialQueue.state_push, SerialQueue.jobs_push]
    rfl
  | stopServer =>
    rw [step, postServer_running h]
    refine ⟨h.push _, ?_⟩
    simp only [direct, SerialQueue.state_push, SerialQueue.jobs_push]
    rfl
  | task client id => exact taskStep_direct h client id
  | reply client =>
    obtain ⟨hserver, hreply⟩ := replyStep_direct s client
    exact ⟨by rw [step, hserver]; exact h, hreply⟩
  | serve id => exact serveStep_direct h id

/-- A run of a system whose server runs is the same run of the direct system. -/
theorem run_direct {s : System ω} (h : s.server.Running) (steps : List (SystemStep ω)) :
    (s.run steps).1.server.Running ∧ ((s.run steps).1.direct, (s.run steps).2) =
      s.direct.run steps := by
  induction steps generalizing s with
  | nil => exact ⟨h, rfl⟩
  | cons next rest ih =>
    obtain ⟨hrunning, hnext⟩ := step_direct h next
    obtain ⟨hrun, hrest⟩ := ih hrunning
    refine ⟨hrun, ?_⟩
    simp only [run, Direct.run, ← hnext, ← hrest]

theorem direct_run {s : System ω} (h : s.server.Running) (steps : List (SystemStep ω)) :
    (s.run steps).1.direct = (s.direct.run steps).1 := congrArg Prod.fst (run_direct h steps).2

theorem output_run {s : System ω} (h : s.server.Running) (steps : List (SystemStep ω)) :
    (s.run steps).2 = (s.direct.run steps).2 := congrArg Prod.snd (run_direct h steps).2

/-- Nothing is queued if the direct system has no jobs and its client has nothing to do. -/
theorem isQuiet_of_direct {s : System ω} (h : s.server.Running) (hjobs : s.direct.jobs = [])
    (hlinks : s.direct.links.all fun l => l.client.refill.isNone && l.client.tasks.isEmpty &&
      l.client.replies.isEmpty) : s.isQuiet := by
  rw [isQuiet, h.channel_eq_nil hjobs]
  exact hlinks

end System

end PacketTunnel.Ipc
