import PacketTunnel.Proofs.UuidNumber
import PacketTunnel.Proofs.WindowAccounts

/-!
# Delivery of pushes

Whatever the order of steps, a push that finds a slot reaches the host once, at the client that sent
the oldest slot, and a push that finds none reaches nobody. A reply that a client has not looked at
keeps its place, whether the client is stopped or its transport leads nowhere.
-/

namespace PacketTunnel.Ipc

variable {ω : Type}

theorem addressed_append (client : Nat) (l m : List (Nat × String)) :
    addressed client (l ++ m) = addressed client l ++ addressed client m :=
  List.filterMap_append

theorem addressed_singleton (client receiver : Nat) (endpoint : String) :
    addressed client [(receiver, endpoint)] = if receiver = client then [endpoint] else [] := by
  by_cases h : receiver = client <;> simp [addressed, h]

theorem count_addressed (l : List (Nat × String)) (client : Nat) (endpoint : String) :
    (addressed client l).count endpoint = l.count (client, endpoint) := by
  induction l with
  | nil => rfl
  | cons p rest ih =>
    obtain ⟨receiver, found⟩ := p
    rw [← List.singleton_append, addressed_append, List.count_append, List.count_append, ih,
      addressed_singleton]
    by_cases hreceiver : receiver = client
    · simp [hreceiver, List.count_cons]
    · simp [hreceiver]

/-- What is meant for each client determines the whole up to order. -/
theorem perm_of_addressed {l m : List (Nat × String)}
    (h : ∀ client, addressed client l = addressed client m) : l.Perm m := by
  apply List.perm_iff_count.mpr
  rintro ⟨client, endpoint⟩
  rw [← count_addressed, ← count_addressed, h]

/-- A change that keeps the replies of a client changes nothing about what is awaited. -/
theorem awaited_modify {links : List Link} {n : Nat} {change : Link → Link}
    (h : ∀ link, links[n]? = some link → (change link).client.replies = link.client.replies)
    (client : Nat) : awaited (links.modify n change) client = awaited links client := by
  rw [awaited, awaited, List.getElem?_modify]
  by_cases hn : n = client
  · subst hn
    cases hlink : links[n]? with
    | none => rfl
    | some link => simp only [if_true, Option.map_eq_map, Option.map_some, h link hlink]
  · simp only [if_neg hn, Option.map_eq_map, Option.map_id_fun']
    rfl

/-- A reply that a client receives is awaited behind the others. -/
theorem awaited_receive (links : List Link) (n : Nat) (reply : Reply) (client : Nat)
    (hn : reply.endpoint?.isSome → n < links.length) :
    awaited (links.modify n fun l => { l with client := l.client.receive (.reply reply) }) client =
      awaited links client ++ addressed client (reply.endpoint?.map (n, ·)).toList := by
  rw [awaited, awaited, List.getElem?_modify]
  by_cases hclient : n = client
  · subst hclient
    cases hlink : links[n]? with
    | none =>
      have hout : ¬ n < links.length := Nat.not_lt.mpr (List.getElem?_eq_none_iff.mp hlink)
      cases reply with
      | reconnected endpoint => exact absurd (hn rfl) hout
      | serverStarted => rfl
      | needBuffer => rfl
    | some link =>
      simp only [if_true, Option.map_eq_map, Option.map_some, Option.getD_some, Client.receive,
        List.filterMap_append]
      cases reply <;> simp [Reply.endpoint?, addressed]
  · simp only [if_neg hclient, Option.map_eq_map, Option.map_id_fun']
    cases reply <;> simp [Reply.endpoint?, addressed, hclient]

/-- A reply that a client looks at is no longer awaited. -/
theorem awaited_look {links : List Link} {n : Nat} {link : Link} {reply : Reply}
    {rest : List Reply} (hlink : links[n]? = some link)
    (hreplies : link.client.replies = reply :: rest) (changed : Client)
    (hchanged : changed.replies = rest) (client : Nat) :
    addressed client (reply.endpoint?.map (n, ·)).toList ++
      awaited (links.modify n fun l => { l with client := changed }) client =
        awaited links client := by
  rw [awaited, awaited, List.getElem?_modify]
  by_cases hclient : n = client
  · subst hclient
    simp only [hlink, if_true, Option.map_eq_map, Option.map_some, Option.getD_some, hchanged,
      hreplies]
    cases reply <;> simp [Reply.endpoint?, addressed, List.filterMap_cons]
  · simp only [if_neg hclient, Option.map_eq_map, Option.map_id_fun']
    cases reply <;> simp [Reply.endpoint?, addressed, hclient]

namespace Direct

theorem reconnect?_ended (observer : Option ω) (result : Except Error Unit) :
    (ended observer result).filterMap SystemOutput.reconnect? = [] := by
  cases observer <;> rfl

theorem outcome?_ended (observer : Option ω) (result : Except Error Unit) :
    (ended observer result).filterMap SystemOutput.outcome? =
      (observer.map (·, result)).toList := by
  cases observer <;> rfl

/-- A step of a client's task queue tells of no reconnect and of no push. -/
theorem turn_silent {c changed : Client} {connected : Bool} {id : Uuid}
    {commands : List (Command Action)} {events : List ClientEvent}
    (h : c.Turn connected id changed commands events) (client : Nat) :
    (commands.map (.sent client ·.action) ++ events.map (.event client) :
        List (SystemOutput ω)).filterMap SystemOutput.reconnect? = [] ∧
      (commands.map (.sent client ·.action) ++ events.map (.event client) :
        List (SystemOutput ω)).filterMap SystemOutput.outcome? = [] := by
  cases h <;> exact ⟨rfl, rfl⟩

/-- A step of the server tells of no reconnect; what a push delivers is awaited by its client. -/
theorem Serve.delivers {d d' : Direct ω} {output : List (SystemOutput ω)}
    {sent : List (Nat × Command Action)} {kept : List (Slot Nat)} (h : d.Accounts sent kept)
    (hserve : d.Serve d' output) (id : Uuid) (client : Nat) :
    output.filterMap SystemOutput.reconnect? = [] ∧
      awaited d'.links client = awaited d.links client ++
        addressed client ((d.serves (.serve id)).filterMap Serving.delivery?) := by
  cases hserve with
  | nothing hjobs =>
    rw [serves_of_nil hjobs]
    exact ⟨rfl, (List.append_nil _).symm⟩
  | start id client rest hjobs =>
    rw [serves_of_cons hjobs]
    refine ⟨rfl, awaited_receive _ _ _ _ ?_⟩
    intro hnone
    exact absurd hnone Bool.false_ne_true
  | fill id client rest hjobs =>
    rw [serves_of_cons hjobs]
    exact ⟨rfl, (List.append_nil _).symm⟩
  | underflow endpoint observer rest hjobs hslots =>
    rw [serves_of_cons hjobs, hslots]
    exact ⟨reconnect?_ended .., (List.append_nil _).symm⟩
  | pair endpoint observer rest first last hjobs hslots =>
    have hfirst : first.handler < d.links.length := h.handler_lt (by simp [hslots])
    have hlast := awaited_receive d.links last.handler .needBuffer client
      fun hnone => absurd hnone Bool.false_ne_true
    rw [serves_of_cons hjobs, hslots]
    refine ⟨reconnect?_ended .., (awaited_receive _ _ _ _ ?_).trans ?_⟩
    · intro _
      rw [length_links_modifyClient]
      exact hfirst
    · exact congrArg (· ++ _) (hlast.trans (List.append_nil _))
  | pushed endpoint observer rest first slots hjobs hslots hlength =>
    have hfirst : first.handler < d.links.length := h.handler_lt (by simp [hslots])
    rw [serves_of_cons hjobs, hslots]
    exact ⟨reconnect?_ended .., awaited_receive _ _ _ _ fun _ => hfirst⟩
  | stop rest hjobs =>
    rw [serves_of_cons hjobs]
    exact ⟨rfl, (List.append_nil _).symm⟩
  | count rest hjobs =>
    rw [serves_of_cons hjobs]
    exact ⟨rfl, (List.append_nil _).symm⟩

/-- A step of the server tells how the push ended that it has run. -/
theorem Serve.outcomes {d d' : Direct ω} {output : List (SystemOutput ω)}
    (hserve : d.Serve d' output) (id : Uuid) : output.filterMap SystemOutput.outcome? =
      (d.serves (.serve id)).filterMap Serving.outcome? := by
  cases hserve with
  | nothing hjobs =>
    rw [serves_of_nil hjobs]
    rfl
  | start _ _ _ hjobs | fill _ _ _ hjobs | stop _ hjobs | count _ hjobs =>
    rw [serves_of_cons hjobs]
    rfl
  | underflow endpoint observer rest hjobs hslots =>
    rw [serves_of_cons hjobs, hslots, outcome?_ended]
    cases observer <;> rfl
  | pair endpoint observer rest first last hjobs hslots =>
    rw [serves_of_cons hjobs, hslots, outcome?_ended]
    cases observer <;> rfl
  | pushed endpoint observer rest first slots hjobs hslots =>
    rw [serves_of_cons hjobs, hslots, outcome?_ended]
    cases observer <;> rfl

/-- A step of the server takes the push that it runs from those that wait. -/
theorem Serve.pushes {d d' : Direct ω} {output : List (SystemOutput ω)}
    (hserve : d.Serve d' output) (id : Uuid) :
    ((d.serves (.serve id)).map (·.job)).filterMap ServerJob.push? ++
      d'.jobs.filterMap ServerJob.push? = d.jobs.filterMap ServerJob.push? := by
  cases hserve with
  | nothing hjobs =>
    rw [serves_of_nil hjobs]
    rfl
  | start _ _ _ hjobs
  | fill _ _ _ hjobs
  | underflow _ _ _ hjobs
  | pair _ _ _ _ _ hjobs
  | pushed _ _ _ _ _ hjobs
  | stop _ hjobs
  | count _ hjobs =>
    rw [serves_of_cons hjobs, hjobs]
    rfl

/-- In a step, what a client tells and what it has yet to look at is what it had to look at and what
the step delivers to it. -/
theorem step_delivers {d : Direct ω} {sent : List (Nat × Command Action)} {kept : List (Slot Nat)}
    (h : d.Accounts sent kept) (x : SystemStep ω) (client : Nat) :
    addressed client ((d.step x).2.filterMap SystemOutput.reconnect?) ++
        awaited (d.step x).1.links client =
      awaited d.links client ++ addressed client ((d.serves x).filterMap Serving.delivery?) := by
  have hlinks (n : Nat) (change : Link → Link)
      (hreplies : ∀ l, (change l).client.replies = l.client.replies) :
      awaited (d.links.modify n change) client = awaited d.links client ++ [] := by
    rw [List.append_nil]
    exact awaited_modify (fun link _ => hreplies link) client
  cases x with
  | start n => exact hlinks n _ fun _ => rfl
  | stop n => exact hlinks n _ fun _ => rfl
  | disconnect n => exact hlinks n _ fun _ => rfl
  | push name endpoint => exact (List.append_nil _).symm
  | stopServer => exact (List.append_nil _).symm
  | task n id =>
    refine Eq.trans ?_ (List.append_nil _).symm
    rw [step]
    rcases d.taskStep_cases n id with
      htask | ⟨link, changed, commands, events, hlink, hturn, htask⟩
    · rw [htask]
      rfl
    · rw [htask, (turn_silent hturn n).1]
      apply awaited_modify
      intro found hfound
      obtain rfl := Option.some.inj (hlink.symm.trans hfound)
      exact hturn.replies_eq
  | reply n =>
    refine Eq.trans ?_ (List.append_nil _).symm
    rw [step]
    rcases d.replyStep_cases n with hreply | ⟨link, reply, rest, hlink, hreplies, hreply⟩
    · rw [hreply]
      rfl
    · have hlook := awaited_look hlink hreplies { link.client with
        replies := rest
        tasks := link.client.tasks ++ reply.task?.toList } rfl client
      rw [hreply, ← hlook]
      cases reply <;> rfl
  | serve id =>
    obtain ⟨hsilent, hawaited⟩ := d.serve_serveStep.delivers h id client
    rw [step, hsilent, hawaited]
    rfl

/-- A step tells how the push ended that it has run, and of no other. -/
theorem step_outcomes (d : Direct ω) (x : SystemStep ω) :
    (d.step x).2.filterMap SystemOutput.outcome? = (d.serves x).filterMap Serving.outcome? := by
  cases x with
  | start | stop | disconnect | push | stopServer => rfl
  | task n id =>
    rw [step]
    rcases d.taskStep_cases n id with htask | ⟨_, _, commands, events, _, hturn, htask⟩
    · rw [htask]
      rfl
    · rw [htask, (turn_silent hturn n).2]
      rfl
  | reply n =>
    rw [step]
    rcases d.replyStep_cases n with hreply | ⟨link, reply, rest, _, _, hreply⟩
    · rw [hreply]
      rfl
    · rw [hreply]
      cases reply <;> rfl
  | serve id => exact d.serve_serveStep.outcomes id

/-- A push waits behind the others until the server runs it. -/
theorem step_pushes (d : Direct ω) (x : SystemStep ω) :
    ((d.serves x).map (·.job)).filterMap ServerJob.push? ++
        (d.step x).1.jobs.filterMap ServerJob.push? =
      d.jobs.filterMap ServerJob.push? ++ x.push?.toList := by
  cases x with
  | start | stop | disconnect => exact (List.append_nil _).symm
  | push name endpoint => exact List.filterMap_append
  | stopServer => exact List.filterMap_append
  | task n id =>
    refine Eq.trans ?_ (List.append_nil _).symm
    rw [step]
    rcases d.taskStep_cases n id with htask | ⟨link, changed, commands, events, _, _, htask⟩
    · rw [htask]
      rfl
    · have harrived : (if link.connected then commands.map (ServerJob.handle (ω := ω) · n)
          else []).filterMap ServerJob.push? = [] := by
        cases link.connected with
        | false => rfl
        | true =>
          rw [if_pos rfl, List.filterMap_map]
          exact List.filterMap_eq_nil_iff.mpr fun _ _ => rfl
      rw [htask]
      refine List.filterMap_append.trans ?_
      rw [harrived, List.append_nil]
  | reply n =>
    refine Eq.trans ?_ (List.append_nil _).symm
    rw [step]
    rcases d.replyStep_cases n with hreply | ⟨_, _, _, _, _, hreply⟩
    · rw [hreply]
      rfl
    · rw [hreply]
      rfl
  | serve id =>
    rw [step, d.serve_serveStep.pushes id]
    exact (List.append_nil _).symm

/-- Over a run, what a client tells and what it has yet to look at is what it had to look at and
what the run delivers to it. -/
theorem run_delivers {d : Direct ω} {sent : List (Nat × Command Action)} {kept : List (Slot Nat)}
    (h : d.Accounts sent kept) (steps : List (SystemStep ω))
    (hids : ((sent ++ d.sent steps).map (·.2.id)).Nodup) (client : Nat) :
    addressed client ((d.run steps).2.filterMap SystemOutput.reconnect?) ++
        awaited (d.run steps).1.links client =
      awaited d.links client ++
        addressed client ((d.served steps).filterMap Serving.delivery?) := by
  induction steps generalizing d sent kept with
  | nil => exact (List.append_nil _).symm
  | cons x rest ih =>
    obtain ⟨hnext, hrest⟩ := h.head hids
    rw [run, served, watch, List.filterMap_append, List.filterMap_append, addressed_append,
      addressed_append, List.append_assoc, ih hnext hrest, ← List.append_assoc,
      step_delivers h x client, List.append_assoc]
    rfl

/-- Over a run, every push that the server runs ends. -/
theorem run_outcomes (d : Direct ω) (steps : List (SystemStep ω)) :
    (d.run steps).2.filterMap SystemOutput.outcome? =
      (d.served steps).filterMap Serving.outcome? := by
  induction steps generalizing d with
  | nil => rfl
  | cons x rest ih =>
    rw [run, served, watch, List.filterMap_append, List.filterMap_append, ih, step_outcomes]
    rfl

/-- Over a run, pushes wait in order until the server runs them. -/
theorem run_pushes (d : Direct ω) (steps : List (SystemStep ω)) :
    ((d.served steps).map (·.job)).filterMap ServerJob.push? ++
        (d.run steps).1.jobs.filterMap ServerJob.push? =
      d.jobs.filterMap ServerJob.push? ++ steps.filterMap SystemStep.push? := by
  induction steps generalizing d with
  | nil => exact (List.append_nil _).symm
  | cons x rest ih =>
    have hrest := ih (d.step x).1
    have hpush : (x :: rest).filterMap SystemStep.push? =
        x.push?.toList ++ rest.filterMap SystemStep.push? := by
      cases hx : x.push? with
      | none => rw [List.filterMap_cons_none hx]; rfl
      | some push => rw [List.filterMap_cons_some hx]; rfl
    have hserved : d.served (x :: rest) = d.serves x ++ (d.step x).1.served rest := rfl
    rw [hpush, ← List.append_assoc, ← step_pushes d x, List.append_assoc, ← hrest, hserved,
      List.map_append, List.filterMap_append, List.append_assoc]
    rfl

end Direct

namespace System

/-- The reconnects that clients tell the host over a run, each with the client. -/
def reconnects (s : System ω) (steps : List (SystemStep ω)) : List (Nat × String) :=
  (s.run steps).2.filterMap SystemOutput.reconnect?

/-- The pushes that find a slot over a run, each with the client that the oldest slot belongs to. -/
def deliveries (s : System ω) (steps : List (SystemStep ω)) : List (Nat × String) :=
  (s.served steps).filterMap Serving.delivery?

/-- Pushes are delivered over a run. -/
structure Delivers (s : System ω) (steps : List (SystemStep ω)) : Prop where
  /-- Every push that was posted is run once, in order, or waits to be run. -/
  pushes : ((s.served steps).map (·.job)).filterMap ServerJob.push? ++
    (s.run steps).1.server.jobs.filterMap ServerJob.push? = steps.filterMap SystemStep.push?
  /-- Every push that is run ends once; it succeeds if it finds a slot, and underflows if not. -/
  outcomes : (s.run steps).2.filterMap SystemOutput.outcome? =
    (s.served steps).filterMap Serving.outcome?
  /-- A job finds the newest of the slots kept open before it, so the first slot is the oldest. -/
  windows : ∀ before now after, s.served steps = before ++ now :: after →
    now.window <:+ (before.map (·.job)).filterMap ServerJob.slot?
  /-- A slot belongs to the one client that sent its command. -/
  owners : ∀ now ∈ s.served steps, ∀ slot ∈ now.window, ∀ p : Nat × Command Action,
    p ∈ s.sent steps ∧ p.2.id = slot.command.id ↔ p = (slot.handler, slot.command)
  /-- What a client has told so far comes first in what was delivered to it, and its replies hold
  the rest. -/
  inOrder : ∀ client, addressed client (s.reconnects steps) ++
    awaited (s.run steps).1.links client = addressed client (s.deliveries steps)
  /-- Once nothing is queued every client has told what was delivered to it. -/
  settled : (s.run steps).1.isQuiet → ∀ client,
    addressed client (s.reconnects steps) = addressed client (s.deliveries steps)
  /-- Once nothing is queued every delivery was told once, and nothing else. -/
  exactlyOnce : (s.run steps).1.isQuiet → (s.reconnects steps).Perm (s.deliveries steps)

/-- Nothing is awaited when nothing is queued. -/
theorem awaited_isQuiet {s : System ω} (h : s.isQuiet) (client : Nat) :
    awaited s.links client = [] := by
  rw [isQuiet, Bool.and_eq_true, List.all_eq_true] at h
  rw [awaited]
  cases hlink : s.links[client]? with
  | none => rfl
  | some link =>
    have hreplies := (Bool.and_eq_true_iff.mp (h.2 link (List.mem_of_getElem? hlink))).2
    rw [Option.map_some, Option.getD_some, List.isEmpty_iff.mp hreplies]
    rfl

theorem isQuiet_fresh (windows : List Nat) : (fresh windows : System ω).isQuiet := by
  rw [isQuiet, Bool.and_eq_true, List.all_eq_true]
  refine ⟨rfl, fun link hlink => ?_⟩
  obtain ⟨n, _, rfl⟩ := List.mem_map.mp hlink
  rfl

/-- Pushes are delivered over every run in which identifiers are distinct. -/
theorem delivers_of_distinct (windows : List Nat) (steps : List (SystemStep ω))
    (hids : (((fresh windows).sent steps).map (·.2.id)).Nodup) :
    (fresh windows).Delivers steps := by
  have hrunning : (fresh windows : System ω).server.Running := SerialQueue.running_fresh []
  have haccounts : (fresh windows : System ω).direct.Accounts [] [] :=
    ⟨List.nil_suffix, List.nil_sublist _, fun _ hp => absurd hp List.not_mem_nil⟩
  have hfinal := direct_run hrunning steps
  have houtput := output_run hrunning steps
  have hids' : ((([] : List (Nat × Command Action)) ++ (fresh windows).direct.sent steps).map
      (·.2.id)).Nodup := by
    rw [← sent_direct hrunning]
    exact hids
  have hinOrder (client : Nat) : addressed client ((fresh windows).reconnects steps) ++
      awaited ((fresh windows).run steps).1.links client =
        addressed client ((fresh windows).deliveries steps) := by
    have hrun := Direct.run_delivers haccounts steps hids' client
    rw [direct_links, awaited_isQuiet (isQuiet_fresh windows), List.nil_append, ← hfinal] at hrun
    rw [reconnects, deliveries, served_direct hrunning, houtput]
    exact hrun
  have hsettled (hquiet : ((fresh windows).run steps).1.isQuiet) (client : Nat) :
      addressed client ((fresh windows).reconnects steps) =
        addressed client ((fresh windows).deliveries steps) := by
    rw [← hinOrder client, awaited_isQuiet hquiet, List.append_nil]
  refine ⟨?_, ?_, ?_, ?_, hinOrder, hsettled, fun hquiet => perm_of_addressed (hsettled hquiet)⟩
  · have hrun := Direct.run_pushes (fresh windows : System ω).direct steps
    rw [← hfinal, ← served_direct hrunning] at hrun
    exact hrun
  · rw [houtput, served_direct hrunning]
    exact Direct.run_outcomes _ steps
  · intro before now after hserved
    rw [served_direct hrunning] at hserved
    exact (Direct.run_windows haccounts steps hids' hserved).1
  · intro now hnow slot hslot p
    obtain ⟨before, after, hserved⟩ := List.append_of_mem hnow
    rw [served_direct hrunning] at hserved
    have hsent := (Direct.run_windows haccounts steps hids' hserved).2 slot hslot
    rw [List.nil_append, ← sent_direct hrunning] at hsent
    constructor
    · rintro ⟨hp, hid⟩
      exact List.inj_on_of_nodup_map hids hp hsent hid
    · rintro rfl
      exact ⟨hsent, rfl⟩

/-- Two clients fill the window in turn, and a push goes to the one whose slot came first. -/
def twoClients : List (SystemStep Unit) :=
  [.start 0, .task 0 (.numbered 0), .serve (.numbered 0), .start 1, .task 1 (.numbered 1),
    .serve (.numbered 0), .reply 0, .task 0 (.numbered 0), .reply 1, .task 1 (.numbered 0),
    .task 1 (.numbered 2), .task 0 (.numbered 3), .task 1 (.numbered 4), .serve (.numbered 0),
    .serve (.numbered 0), .serve (.numbered 0), .push () "relay", .serve (.numbered 0), .reply 1]

/-- Pushes are delivered to two clients. -/
theorem delivers_twoClients : (fresh [2, 2]).Delivers twoClients ∧
    (fresh [2, 2]).deliveries twoClients = [(1, "relay")] := by
  have hrunning : (fresh [2, 2] : System Unit).server.Running := SerialQueue.running_fresh []
  refine ⟨delivers_of_distinct [2, 2] twoClients ?_, ?_⟩
  · rw [sent_direct hrunning]
    decide
  · rw [deliveries, served_direct hrunning]
    decide

end System

end PacketTunnel.Ipc
