import PacketTunnel.Proofs.DirectSystem

/-!
# Steps of a system without bytes

What a step does, told by what it finds. A step of a task queue is a turn of its client, and what
the client sends arrives if its transport leads to the server. A step of a reply queue looks at one
reply. A step of the server runs one job: the window changes, clients are answered, and an observer
is told about the end of a push.
-/

namespace PacketTunnel.Ipc

variable {ω : Type}

namespace Window

/-- A command whose identifier no slot has is kept behind the others. -/
theorem keep_of_new {η : Type} {slots : List (Slot η)} {command : Command Action}
    (h : ∀ slot ∈ slots, slot.command.id ≠ command.id) (handler : η) :
    (keep slots command handler : Progress η ω) =
      .start (slots ++ [⟨command, handler⟩]) := by
  have hfind : slots.find? (·.command.same command) = none :=
    List.find?_eq_none.mpr fun slot hslot => by
      simpa only [Command.same, decide_eq_true_eq] using h slot hslot
  rw [keep, hfind]

/-- A command takes at most one more slot. -/
theorem length_keep_le (slots : List (Slot Nat)) (command : Command Action) (handler : Nat) :
    (keep slots command handler : Progress Nat ω).slots.length ≤ slots.length + 1 := by
  rw [keep]
  split
  · exact Nat.le_of_eq List.length_append
  · refine Nat.le_trans (Nat.le_of_eq (List.length_map _)) (Nat.le_succ _)

/-- A command that is kept leaves a slot. -/
theorem keep_ne_nil (slots : List (Slot Nat)) (command : Command Action) (handler : Nat) :
    (keep slots command handler : Progress Nat ω).slots ≠ [] := by
  rw [keep]
  split
  · exact List.append_ne_nil_of_right_ne_nil _ (List.cons_ne_nil _ _)
  · next old hfind =>
    intro h
    have hmem := List.mem_of_find?_eq_some hfind
    rw [List.map_eq_nil_iff.mp h] at hmem
    exact List.not_mem_nil hmem

/-- A command that is kept answers nobody. -/
theorem effects_keep (slots : List (Slot Nat)) (command : Command Action) (handler : Nat) :
    ∃ dropped : List Nat,
      (keep slots command handler : Progress Nat ω).effects = dropped.map .drop := by
  rw [keep]
  split
  · exact ⟨[], rfl⟩
  · next old _ => exact ⟨[old.handler], rfl⟩

theorem broken_keep (slots : List (Slot Nat)) (command : Command Action) (handler : Nat) :
    (keep slots command handler : Progress Nat ω).broken = false := by
  rw [keep]
  split <;> rfl

end Window

namespace Direct

/-- What is told about the end of a push. -/
def ended (observer : Option ω) (result : Except Error Unit) : List (SystemOutput ω) :=
  (observer.map (.pushed · result)).toList

/-- Dropped handlers see nothing. -/
theorem performAll_drop (d : Direct ω) (dropped : List Nat) (effects : List (ServerEffect Nat ω)) :
    d.performAll (dropped.map .drop ++ effects) = d.performAll effects := by
  induction dropped with
  | nil => rfl
  | cons handler rest ih => exact ih

theorem performAll_observation (d : Direct ω) (observer : Option ω) (result : Except Error Unit) :
    d.performAll (Window.observation observer result) = (d, ended observer result) := by
  cases observer <;> rfl

/-- Without jobs the server does nothing. -/
theorem serveStep_nil {d : Direct ω} (h : d.jobs = []) : d.serveStep = (d, []) := by
  rw [serveStep, h]

/-- To start over, all slots are dropped and the command is answered. -/
theorem serveStep_start {d : Direct ω} {id : Uuid} {client : Nat} {rest : List (ServerJob Nat ω)}
    (h : d.jobs = .handle ⟨id, .start⟩ client :: rest) :
    d.serveStep = (modifyClient { d with slots := [], jobs := rest } client
      (·.receive (.reply .serverStarted)), []) := by
  have hdone : Window.worker System.handling (.handle ⟨id, .start⟩ client) d.slots =
      (⟨[], (d.slots.map (·.handler)).map .drop ++ [.answer client .serverStarted], [],
        some .accepted⟩ : Done _ (ServerJob Nat ω) _ _) := by
    simp only [Window.worker, Window.handle, Window.restart, Window.Progress.answer,
      Window.Progress.drop, Window.Progress.start, Window.Progress.done, System.handling,
      Bool.false_eq_true, ite_false, List.append_nil, List.nil_append]
  rw [serveStep, h]
  simp only [hdone, performAll_drop]
  rfl

/-- A command that keeps a slot open is seen in the window alone. -/
theorem serveStep_fill {d : Direct ω} {id : Uuid} {client : Nat} {rest : List (ServerJob Nat ω)}
    (h : d.jobs = .handle ⟨id, .fillBuffer⟩ client :: rest) :
    d.serveStep = ({ d with
      slots := (Window.keep d.slots ⟨id, .fillBuffer⟩ client : Window.Progress Nat ω).slots
      jobs := rest }, []) := by
  obtain ⟨dropped, heffects⟩ := Window.effects_keep (ω := ω) d.slots ⟨id, .fillBuffer⟩ client
  have hbroken := Window.broken_keep (ω := ω) d.slots ⟨id, .fillBuffer⟩ client
  rw [serveStep, h]
  simp only [Window.worker, Window.handle, Window.Progress.done, hbroken, heffects,
    Bool.false_eq_true, ite_false, performAll_drop]
  rfl

/-- A push without a slot fails. -/
theorem serveStep_push_nil {d : Direct ω} {endpoint : String} {observer : Option ω}
    {rest : List (ServerJob Nat ω)} (h : d.jobs = .push endpoint observer :: rest)
    (hslots : d.slots = []) :
    d.serveStep = ({ d with jobs := rest }, ended observer (.error .bufferUnderflow)) := by
  rw [serveStep, h]
  simp only [hslots, Window.worker, Window.push, Window.Progress.done, Window.Progress.start,
    Bool.false_eq_true, ite_false, List.nil_append, performAll_observation]

/-- A push that would leave one slot uses up both: the newer one asks for more. -/
theorem serveStep_push_pair {d : Direct ω} {endpoint : String} {observer : Option ω}
    {rest : List (ServerJob Nat ω)} (h : d.jobs = .push endpoint observer :: rest)
    {first last : Slot Nat} (hslots : d.slots = [first, last]) :
    d.serveStep =
      (({ d with slots := [], jobs := rest }.modifyClient last.handler
        (·.receive (.reply .needBuffer))).modifyClient first.handler
          (·.receive (.reply (.reconnected endpoint))), ended observer (.ok ())) := by
  rw [serveStep, h]
  simp only [hslots, Window.worker, Window.push, Window.Progress.done, Window.Progress.start,
    Window.Progress.answer, System.handling, Bool.false_eq_true, ite_false, List.nil_append,
    List.cons_append, performAll, performAll_observation]

/-- Any other push uses up the oldest slot. -/
theorem serveStep_push_cons {d : Direct ω} {endpoint : String} {observer : Option ω}
    {rest : List (ServerJob Nat ω)} (h : d.jobs = .push endpoint observer :: rest)
    {first : Slot Nat} {slots : List (Slot Nat)} (hslots : d.slots = first :: slots)
    (hlength : slots.length ≠ 1) :
    d.serveStep = ({ d with slots, jobs := rest }.modifyClient first.handler
      (·.receive (.reply (.reconnected endpoint))), ended observer (.ok ())) := by
  have hpush : Window.push System.handling (first :: slots) endpoint =
      ((Window.Progress.start slots).answer (ω := ω) System.handling first.handler
        (.reconnected endpoint), .ok ()) := by
    match slots, hlength with
    | [], _ => rfl
    | _ :: _ :: _, _ => rfl
  rw [serveStep, h]
  simp only [hslots, Window.worker, hpush, Window.Progress.done, Window.Progress.start,
    Window.Progress.answer, System.handling, Bool.false_eq_true, ite_false, List.nil_append,
    List.cons_append, performAll, performAll_observation]

/-- To stop the server drops all slots. -/
theorem serveStep_stop {d : Direct ω} {rest : List (ServerJob Nat ω)} (h : d.jobs = .stop :: rest) :
    d.serveStep = ({ d with slots := [], jobs := rest }, []) := by
  rw [serveStep, h]
  simp only [Window.worker, Window.Progress.drop, Window.Progress.done, Window.Progress.start,
    Bool.false_eq_true, ite_false, List.nil_append, performAll_drop]
  rfl

/-- To count its slots the server changes none. -/
theorem serveStep_count {d : Direct ω} {rest : List (ServerJob Nat ω)}
    (h : d.jobs = .count :: rest) : d.serveStep = ({ d with jobs := rest }, []) := by
  rw [serveStep, h]
  rfl

/-- What a step of the server does: the system afterwards and the outputs. -/
inductive Serve (d : Direct ω) : Direct ω → List (SystemOutput ω) → Prop where
  /-- There is no job. -/
  | nothing (hjobs : d.jobs = []) : Serve d d []
  /-- The server starts over. -/
  | start (id : Uuid) (client : Nat) (rest : List (ServerJob Nat ω))
      (hjobs : d.jobs = .handle ⟨id, .start⟩ client :: rest) :
    Serve d (modifyClient { d with slots := [], jobs := rest } client
      (·.receive (.reply .serverStarted))) []
  /-- A slot is kept open. -/
  | fill (id : Uuid) (client : Nat) (rest : List (ServerJob Nat ω))
      (hjobs : d.jobs = .handle ⟨id, .fillBuffer⟩ client :: rest) :
    Serve d { d with
      slots := (Window.keep d.slots ⟨id, .fillBuffer⟩ client : Window.Progress Nat ω).slots
      jobs := rest } []
  /-- A push fails. -/
  | underflow (endpoint : String) (observer : Option ω) (rest : List (ServerJob Nat ω))
      (hjobs : d.jobs = .push endpoint observer :: rest) (hslots : d.slots = []) :
    Serve d { d with jobs := rest } (ended observer (.error .bufferUnderflow))
  /-- A push uses up the last two slots. -/
  | pair (endpoint : String) (observer : Option ω) (rest : List (ServerJob Nat ω))
      (first last : Slot Nat) (hjobs : d.jobs = .push endpoint observer :: rest)
      (hslots : d.slots = [first, last]) :
    Serve d (({ d with slots := [], jobs := rest }.modifyClient last.handler
      (·.receive (.reply .needBuffer))).modifyClient first.handler
        (·.receive (.reply (.reconnected endpoint)))) (ended observer (.ok ()))
  /-- A push uses up the oldest slot. -/
  | pushed (endpoint : String) (observer : Option ω) (rest : List (ServerJob Nat ω))
      (first : Slot Nat) (slots : List (Slot Nat))
      (hjobs : d.jobs = .push endpoint observer :: rest) (hslots : d.slots = first :: slots)
      (hlength : slots.length ≠ 1) :
    Serve d ({ d with slots, jobs := rest }.modifyClient first.handler
      (·.receive (.reply (.reconnected endpoint)))) (ended observer (.ok ()))
  /-- The server drops its slots. -/
  | stop (rest : List (ServerJob Nat ω)) (hjobs : d.jobs = .stop :: rest) :
    Serve d { d with slots := [], jobs := rest } []
  /-- The server counts its slots. -/
  | count (rest : List (ServerJob Nat ω)) (hjobs : d.jobs = .count :: rest) :
    Serve d { d with jobs := rest } []

/-- A step of the server does one of these. -/
theorem serve_serveStep (d : Direct ω) : d.Serve d.serveStep.1 d.serveStep.2 := by
  rcases hjobs : d.jobs with _ | ⟨job, rest⟩
  · rw [serveStep_nil hjobs]
    exact .nothing hjobs
  · cases job with
    | handle command client =>
      obtain ⟨id, action⟩ := command
      cases action with
      | start =>
        rw [serveStep_start hjobs]
        exact .start id client rest hjobs
      | fillBuffer =>
        rw [serveStep_fill hjobs]
        exact .fill id client rest hjobs
    | push endpoint observer =>
      match hslots : d.slots with
      | [] =>
        rw [serveStep_push_nil hjobs hslots]
        exact .underflow endpoint observer rest hjobs hslots
      | [first, last] =>
        rw [serveStep_push_pair hjobs hslots]
        exact .pair endpoint observer rest first last hjobs hslots
      | [first] =>
        rw [serveStep_push_cons hjobs hslots (by decide)]
        exact .pushed endpoint observer rest first [] hjobs hslots (by decide)
      | first :: second :: third :: slots =>
        have hlength : (second :: third :: slots).length ≠ 1 := by
          simp only [List.length_cons]
          omega
        rw [serveStep_push_cons hjobs hslots hlength]
        exact .pushed endpoint observer rest first _ hjobs hslots hlength
    | stop =>
      rw [serveStep_stop hjobs]
      exact .stop rest hjobs
    | count =>
      rw [serveStep_count hjobs]
      exact .count rest hjobs

/-- What a step of a client's task queue does. -/
theorem taskStep_cases (d : Direct ω) (client : Nat) (id : Uuid) :
    d.taskStep client id = (d, []) ∨
    ∃ link changed sent events, d.links[client]? = some link ∧
      link.client.Turn link.connected id changed sent events ∧
      d.taskStep client id =
        (modifyClient { d with
            jobs := d.jobs ++ if link.connected then sent.map (.handle · client) else [] }
          client fun _ => changed,
          sent.map (.sent client ·.action) ++ events.map (.event client)) := by
  rw [taskStep]
  rcases hlink : d.links[client]? with _ | link
  · exact .inl rfl
  · dsimp only
    rcases hturn : link.client.taskStep? (relay link.connected) id [] with
      _ | ⟨changed, sent, events⟩
    · exact .inl rfl
    · exact .inr ⟨link, changed, sent, events, rfl, Client.turn_of_taskStep? hturn, rfl⟩

/-- What a step of a client's reply queue does. -/
theorem replyStep_cases (d : Direct ω) (client : Nat) :
    d.replyStep client = (d, []) ∨
    ∃ link reply rest, d.links[client]? = some link ∧ link.client.replies = reply :: rest ∧
      d.replyStep client =
        (d.modifyClient client fun _ => { link.client with
            replies := rest
            tasks := link.client.tasks ++ reply.task?.toList },
          (reply.endpoint?.map fun endpoint => .event client (.reconnected endpoint)).toList) := by
  rw [replyStep]
  rcases hlink : d.links[client]? with _ | link
  · exact .inl rfl
  · dsimp only
    rcases hreplies : link.client.replies with _ | ⟨reply, rest⟩
    · rw [Client.replyStep?_nil hreplies]
      exact .inl rfl
    · rw [Client.replyStep?_cons hreplies]
      refine .inr ⟨link, reply, rest, rfl, hreplies, ?_⟩
      cases reply <;> rfl

end Direct

end PacketTunnel.Ipc
