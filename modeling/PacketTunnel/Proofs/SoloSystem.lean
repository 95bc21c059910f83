import PacketTunnel.Proofs.DirectStep
import PacketTunnel.Proofs.SystemLog

/-!
# One client and its server

A single client whose transport leads to the server, and a server that nobody stops. Every slot and
every answer belongs to this client, so a step is a move of the client, the window and the jobs that
wait.
-/

namespace PacketTunnel.Ipc

variable {ω : Type}

/-- A step that neither stops the server nor disconnects the client. -/
def SystemStep.Steady : SystemStep ω → Prop
  | .disconnect _ => False
  | .stopServer => False
  | _ => True

/-- A job of a single client: a command of its own, or a push. -/
def ServerJob.Solo : ServerJob Nat ω → Prop
  | .handle _ client => client = 0
  | .push _ _ => True
  | .stop => False
  | .count => False

/-- A slot that is kept belongs to the client of the command or of a slot that was there. -/
theorem Window.handler_keep {slots : List (Slot Nat)} {command : Command Action} {handler : Nat}
    {slot : Slot Nat} (h : slot ∈ (keep slots command handler : Progress Nat ω).slots) :
    slot.handler = handler ∨ ∃ old ∈ slots, slot.handler = old.handler := by
  rw [keep] at h
  split at h
  · rcases List.mem_append.mp h with hold | hnew
    · exact .inr ⟨slot, hold, rfl⟩
    · rw [List.mem_singleton.mp hnew]
      exact .inl rfl
  · obtain ⟨old, hold, rfl⟩ := List.mem_map.mp h
    by_cases hsame : old.command.same command
    · rw [if_pos hsame]
      exact .inl rfl
    · rw [if_neg hsame]
      exact .inr ⟨old, hold, rfl⟩

namespace Direct

/-- The direct system of one client. -/
structure Solo (d : Direct ω) (c : Client) : Prop where
  /-- There is no other client, and its transport leads to the server. -/
  links : d.links = [⟨c, true⟩]
  /-- Every slot is the client's. -/
  slots : ∀ slot ∈ d.slots, slot.handler = 0
  /-- Every job is the client's, or a push. -/
  jobs : ∀ job ∈ d.jobs, job.Solo

/-- What a step does to one client, the window and the jobs that wait, and the job that it runs. -/
inductive Move (c : Client) (slots : List (Slot Nat)) (jobs : List (ServerJob Nat ω)) :
    Client → List (Slot Nat) → List (ServerJob Nat ω) → List (Serving ω) → Prop where
  /-- Nothing happens. -/
  | still : Move c slots jobs c slots jobs []
  /-- The client is told to start or to stop. -/
  | told (task : Task) (htask : task = .start ∨ task = .stop) :
    Move c slots jobs (c.post task) slots jobs []
  /-- A push is posted. -/
  | posted (endpoint : String) (observer : Option ω) :
    Move c slots jobs c slots (jobs ++ [.push endpoint observer]) []
  /-- The client's task queue takes a step. -/
  | turned (id : Uuid) (changed : Client) (sent : List (Command Action))
      (events : List ClientEvent) (hturn : c.Turn true id changed sent events) :
    Move c slots jobs changed slots (jobs ++ sent.map (.handle · 0)) []
  /-- The client looks at a reply. -/
  | looked (reply : Reply) (rest : List Reply) (hreplies : c.replies = reply :: rest) :
    Move c slots jobs { c with replies := rest, tasks := c.tasks ++ reply.task?.toList } slots
      jobs []
  /-- The server starts over. -/
  | restarted (id : Uuid) (rest : List (ServerJob Nat ω))
      (hjobs : jobs = .handle ⟨id, .start⟩ 0 :: rest) :
    Move c slots jobs (c.receive (.reply .serverStarted)) [] rest
      [⟨.handle ⟨id, .start⟩ 0, slots⟩]
  /-- A slot is kept open. -/
  | kept (id : Uuid) (rest : List (ServerJob Nat ω))
      (hjobs : jobs = .handle ⟨id, .fillBuffer⟩ 0 :: rest) :
    Move c slots jobs c (Window.keep slots ⟨id, .fillBuffer⟩ 0 : Window.Progress Nat ω).slots rest
      [⟨.handle ⟨id, .fillBuffer⟩ 0, slots⟩]
  /-- A push finds no slot. -/
  | underflow (endpoint : String) (observer : Option ω) (rest : List (ServerJob Nat ω))
      (hjobs : jobs = .push endpoint observer :: rest) (hslots : slots = []) :
    Move c slots jobs c [] rest [⟨.push endpoint observer, []⟩]
  /-- A push finds two slots, and more are asked for. -/
  | pair (endpoint : String) (observer : Option ω) (rest : List (ServerJob Nat ω))
      (first last : Slot Nat) (hjobs : jobs = .push endpoint observer :: rest)
      (hslots : slots = [first, last]) :
    Move c slots jobs
      ((c.receive (.reply .needBuffer)).receive (.reply (.reconnected endpoint))) [] rest
      [⟨.push endpoint observer, [first, last]⟩]
  /-- A push finds one slot, or more than two. -/
  | pushed (endpoint : String) (observer : Option ω) (rest : List (ServerJob Nat ω))
      (first : Slot Nat) (others : List (Slot Nat))
      (hjobs : jobs = .push endpoint observer :: rest) (hslots : slots = first :: others)
      (hlength : others.length ≠ 1) :
    Move c slots jobs (c.receive (.reply (.reconnected endpoint))) others rest
      [⟨.push endpoint observer, first :: others⟩]

namespace Solo

variable {d : Direct ω} {c : Client}

/-- A change of client number zero is a change of the one client. -/
theorem modifyClient (h : d.Solo c) (change : Client → Client) :
    (d.modifyClient 0 change).Solo (change c) := by
  refine ⟨?_, h.slots, h.jobs⟩
  rw [Direct.modifyClient, modifyLink, h.links]
  rfl

/-- There is no other client to change. -/
theorem modifyClient_succ (h : d.Solo c) (n : Nat) (change : Client → Client) :
    d.modifyClient (n + 1) change = d := by
  obtain ⟨links, slots, jobs⟩ := d
  obtain rfl : links = _ := h.links
  simp only [Direct.modifyClient, modifyLink, List.modify_succ_cons, List.modify_nil]

/-- The only client is number zero. -/
theorem eq_of_getElem? (h : d.Solo c) {client : Nat} {link : Link}
    (hlink : d.links[client]? = some link) : client = 0 ∧ link = ⟨c, true⟩ := by
  rw [h.links] at hlink
  cases client with
  | zero => exact ⟨rfl, (Option.some.inj hlink).symm⟩
  | succ n => exact absurd hlink (Option.some_ne_none _).symm

/-- A window whose slots are the client's, with fewer jobs. -/
theorem served (h : d.Solo c) {job : ServerJob Nat ω} {rest : List (ServerJob Nat ω)}
    (hjobs : d.jobs = job :: rest) {slots : List (Slot Nat)}
    (hslots : ∀ slot ∈ slots, slot.handler = 0) :
    ({ d with slots, jobs := rest } : Direct ω).Solo c := by
  refine ⟨h.links, hslots, ?_⟩
  have hall := h.jobs
  rw [hjobs] at hall
  exact (List.forall_mem_cons.mp hall).2

/-- The oldest job is the client's, or a push. -/
theorem solo_job (h : d.Solo c) {job : ServerJob Nat ω} {rest : List (ServerJob Nat ω)}
    (hjobs : d.jobs = job :: rest) : job.Solo := by
  apply h.jobs
  rw [hjobs]
  exact List.mem_cons_self

/-- A step of the server is a move. -/
theorem move_serve (h : d.Solo c) {d' : Direct ω} {output : List (SystemOutput ω)}
    (hserve : d.Serve d' output) (step : Uuid) :
    ∃ changed, d'.Solo changed ∧
      Move c d.slots d.jobs changed d'.slots d'.jobs (d.serves (.serve step)) := by
  have hnone : ∀ slot ∈ ([] : List (Slot Nat)), slot.handler = 0 := by
    intro slot hslot
    exact absurd hslot List.not_mem_nil
  cases hserve with
  | nothing hjobs =>
    rw [serves_of_nil hjobs]
    exact ⟨c, h, .still⟩
  | start id client rest hjobs =>
    obtain rfl : client = 0 := h.solo_job hjobs
    rw [serves_of_cons hjobs]
    exact ⟨_, (h.served hjobs hnone).modifyClient _, .restarted id rest hjobs⟩
  | fill id client rest hjobs =>
    obtain rfl : client = 0 := h.solo_job hjobs
    rw [serves_of_cons hjobs]
    refine ⟨c, h.served hjobs ?_, .kept id rest hjobs⟩
    intro slot hslot
    rcases Window.handler_keep hslot with hnew | ⟨old, hold, heq⟩
    · exact hnew
    · exact heq.trans (h.slots old hold)
  | underflow endpoint observer rest hjobs hslots =>
    rw [serves_of_cons hjobs, hslots]
    exact ⟨c, h.served hjobs (hslots ▸ h.slots), .underflow endpoint observer rest hjobs rfl⟩
  | pair endpoint observer rest first last hjobs hslots =>
    have hfirst : first.handler = 0 := h.slots first (by simp [hslots])
    have hlast : last.handler = 0 := h.slots last (by simp [hslots])
    have hsolo := (h.served hjobs hnone).modifyClient (·.receive (.reply .needBuffer))
    rw [serves_of_cons hjobs, hslots, hfirst, hlast]
    exact ⟨_, hsolo.modifyClient _, .pair endpoint observer rest first last hjobs rfl⟩
  | pushed endpoint observer rest first slots hjobs hslots hlength =>
    have hfirst : first.handler = 0 := h.slots first (by simp [hslots])
    have hothers : ∀ slot ∈ slots, slot.handler = 0 := by
      intro slot hslot
      exact h.slots slot (by simp [hslots, hslot])
    rw [serves_of_cons hjobs, hslots, hfirst]
    exact ⟨_, (h.served hjobs hothers).modifyClient _,
      .pushed endpoint observer rest first slots hjobs rfl hlength⟩
  | stop rest hjobs => exact (h.solo_job hjobs).elim
  | count rest hjobs => exact (h.solo_job hjobs).elim

/-- A step of one client with its server is a move. -/
theorem move (h : d.Solo c) (x : SystemStep ω) (hx : x.Steady) :
    ∃ changed, (d.step x).1.Solo changed ∧
      Move c d.slots d.jobs changed (d.step x).1.slots (d.step x).1.jobs (d.serves x) := by
  cases x with
  | start client =>
    cases client with
    | zero => exact ⟨_, h.modifyClient (·.post .start), .told .start (.inl rfl)⟩
    | succ n =>
      rw [step, h.modifyClient_succ]
      exact ⟨c, h, .still⟩
  | stop client =>
    cases client with
    | zero => exact ⟨_, h.modifyClient (·.post .stop), .told .stop (.inr rfl)⟩
    | succ n =>
      rw [step, h.modifyClient_succ]
      exact ⟨c, h, .still⟩
  | disconnect client => exact hx.elim
  | push name endpoint =>
    refine ⟨c, ⟨h.links, h.slots, ?_⟩, .posted endpoint (some name)⟩
    intro job hjob
    rcases List.mem_append.mp hjob with hold | hnew
    · exact h.jobs job hold
    · rw [List.mem_singleton.mp hnew]
      exact trivial
  | stopServer => exact hx.elim
  | task client id =>
    rw [step]
    rcases d.taskStep_cases client id with
      htask | ⟨link, changed, sent, events, hlink, hturn, htask⟩
    · rw [htask]
      exact ⟨c, h, .still⟩
    · obtain ⟨rfl, rfl⟩ := h.eq_of_getElem? hlink
      rw [htask]
      refine ⟨changed, ⟨?_, h.slots, ?_⟩, .turned id changed sent events hturn⟩
      · rw [Direct.modifyClient, modifyLink, h.links]
        rfl
      · intro job hjob
        rcases List.mem_append.mp hjob with hold | hnew
        · exact h.jobs job hold
        · obtain ⟨command, _, rfl⟩ := List.mem_map.mp hnew
          rfl
  | reply client =>
    rw [step]
    rcases d.replyStep_cases client with hreply | ⟨link, reply, rest, hlink, hreplies, hreply⟩
    · rw [hreply]
      exact ⟨c, h, .still⟩
    · obtain ⟨rfl, rfl⟩ := h.eq_of_getElem? hlink
      rw [hreply]
      exact ⟨_, h.modifyClient fun _ => { c with
          replies := rest
          tasks := c.tasks ++ reply.task?.toList }, .looked reply rest hreplies⟩
  | serve id => exact h.move_serve d.serve_serveStep id

end Solo

end Direct

namespace System

/-- A step of one client with its server is a move. -/
theorem move {s : System ω} {c : Client} (hrunning : s.server.Running) (hsolo : s.direct.Solo c)
    {x : SystemStep ω} (hx : x.Steady) :
    ∃ changed, (s.step x).1.server.Running ∧ (s.step x).1.direct.Solo changed ∧
      Direct.Move c s.direct.slots s.direct.jobs changed (s.step x).1.direct.slots
        (s.step x).1.direct.jobs (s.direct.serves x) := by
  obtain ⟨hnext, hdirect⟩ := step_direct hrunning x
  obtain ⟨changed, hchanged, hmove⟩ := hsolo.move x hx
  rw [← hdirect] at hchanged hmove
  exact ⟨changed, hnext, hchanged, hmove⟩

/-- A single client. -/
theorem solo_fresh (window : Nat) :
    (fresh [window] : System ω).direct.Solo (.fresh window) :=
  ⟨rfl, fun _ h => absurd h List.not_mem_nil, fun _ h => absurd h List.not_mem_nil⟩

/-- Nothing waits for the server when nothing is queued. -/
theorem jobs_isQuiet {s : System ω} (h : s.isQuiet) : s.server.jobs = [] := by
  rw [isQuiet, Bool.and_eq_true] at h
  rw [SerialQueue.jobs, List.isEmpty_iff.mp h.1]
  rfl

end System

end PacketTunnel.Ipc
