import PacketTunnel.Proofs.PushDelivery
import PacketTunnel.Proofs.Settling
import PacketTunnel.Proofs.SoloSystem

/-!
# What becomes of a request

One client and its server are asked for something while nothing is queued. From then on each stage
has a goal, the phase and the number of slots that it ends in, and the steps of the queues change
neither the goal nor how pushes end, in whatever order they come.
-/

namespace PacketTunnel.Ipc

variable {ω : Type}

/-- What one client and its server are asked for. -/
inductive Request (ω : Type) where
  /-- The client is told to start. -/
  | start
  /-- The client is told to stop. -/
  | stop
  /-- A push is posted to the server. -/
  | push (name : ω) (endpoint : String)

/-- The step that makes a request. -/
def Request.step : Request ω → SystemStep ω
  | .start => .start 0
  | .stop => .stop 0
  | .push name endpoint => .push name endpoint

/-- Where a client stands, and how many slots its server holds. -/
structure Standing where
  /-- Where the client stands. -/
  phase : Phase
  /-- How many slots there are. -/
  slots : Nat
  deriving DecidableEq, Repr

/-- What a task leads to if refills send `n` commands and the window is empty before each. -/
def Task.after (n : Nat) (st : Standing) (task : Task) : Standing :=
  if task.Idle st.phase then st
  else match task with
    | .stop | .serverGone => ⟨.stopped, st.slots⟩
    | .start | .serverDidStart | .needBuffer => ⟨.standby, n⟩

namespace Standing

/-- What a request leads to. A push that finds two slots leaves none, and asks for more. -/
def after (n : Nat) (st : Standing) : Request ω → Standing
  | .start => Task.start.after n st
  | .stop => Task.stop.after n st
  | .push _ _ =>
    if st.slots = 2 then Task.needBuffer.after n ⟨st.phase, 0⟩ else ⟨st.phase, st.slots - 1⟩

/-- How the push that is asked for ends. -/
def outcomes (st : Standing) : Request ω → List (ω × Except Error Unit)
  | .push name _ => [(name, if st.slots = 0 then .error .bufferUnderflow else .ok ())]
  | _ => []

end Standing

/-- Commands of a refill that wait for the server. -/
def fills (ids : List Uuid) : List (ServerJob Nat ω) :=
  ids.map fun id => .handle ⟨id, .fillBuffer⟩ 0

/-- The stages of a request that ends in `goal`: the client, the slots, the jobs that wait and how
pushes among these end. Replies that only tell of a reconnect may wait in each. -/
inductive Course (n : Nat) (goal : Standing) : Client → List (Slot Nat) →
    List (ServerJob Nat ω) → List (ω × Except Error Unit) → Prop where
  /-- The client is done, and the last commands of its refill wait for the server. -/
  | filled (phase : Phase) (replies : List Reply) (slots : List (Slot Nat)) (ids : List Uuid)
      (hreplies : ∀ reply ∈ replies, reply.task? = none)
      (hgoal : goal = ⟨phase, slots.length + ids.length⟩) :
    Course n goal ⟨phase, n, none, [], replies⟩ slots (fills ids) []
  /-- A task waits; if it asks for the window to be filled, the window is empty. -/
  | due (phase : Phase) (task : Task) (replies : List Reply) (slots : List (Slot Nat))
      (hreplies : ∀ reply ∈ replies, reply.task? = none) (hslots : task.Fills → slots = [])
      (hgoal : goal = task.after n ⟨phase, slots.length⟩) :
    Course n goal ⟨phase, n, none, [task], replies⟩ slots [] []
  /-- A reply waits that stands for a task. -/
  | told (phase : Phase) (reply : Reply) (task : Task) (before after : List Reply)
      (hbefore : ∀ reply ∈ before, reply.task? = none)
      (hafter : ∀ reply ∈ after, reply.task? = none) (htask : reply.task? = some task)
      (hgoal : goal = task.after n ⟨phase, 0⟩) :
    Course n goal ⟨phase, n, none, [], before ++ reply :: after⟩ [] [] []
  /-- The server is asked to start over. -/
  | asking (id : Uuid) (replies : List Reply) (slots : List (Slot Nat))
      (hreplies : ∀ reply ∈ replies, reply.task? = none) (hgoal : goal = ⟨.standby, n⟩) :
    Course n goal ⟨.waitingForServerStart, n, none, [], replies⟩ slots
      [.handle ⟨id, .start⟩ 0] []
  /-- A refill is at hand. -/
  | filling (left : Nat) (replies : List Reply) (slots : List (Slot Nat)) (ids : List Uuid)
      (hreplies : ∀ reply ∈ replies, reply.task? = none)
      (hcount : slots.length + ids.length + left = n) (hgoal : goal = ⟨.standby, n⟩) :
    Course n goal ⟨.fillingServerBuffer, n, some left, [], replies⟩ slots (fills ids) []
  /-- A push waits for the server. -/
  | pushing (phase : Phase) (name : ω) (endpoint : String) (replies : List Reply)
      (slots : List (Slot Nat)) (hreplies : ∀ reply ∈ replies, reply.task? = none)
      (hgoal : goal = Standing.after n ⟨phase, slots.length⟩ (.push name endpoint)) :
    Course n goal ⟨phase, n, none, [], replies⟩ slots [.push endpoint (some name)]
      (Standing.outcomes ⟨phase, slots.length⟩ (.push name endpoint))

/-- A client with nothing to do takes no turn. -/
theorem Client.Turn.not_nil {connected : Bool} {id : Uuid} {c changed : Client}
    {sent : List (Command Action)} {events : List ClientEvent} (hrefill : c.refill = none)
    (htasks : c.tasks = []) : ¬ c.Turn connected id changed sent events := by
  intro h
  cases h with
  | filled h | filling _ h =>
    rw [hrefill] at h
    exact absurd h.symm (Option.some_ne_none _)
  | started _ _ h | stopped _ _ h | refilled _ _ _ h | lost _ _ h | idle _ _ _ h =>
    rw [htasks] at h
    exact absurd h.symm (List.cons_ne_nil _ _)

theorem Task.after_idle {task : Task} {n : Nat} {st : Standing} (h : task.Idle st.phase) :
    task.after n st = st := if_pos h

/-- A task that fills the window, if it is not idle, leads to a full window. -/
theorem Task.Fills.after_eq {task : Task} (h : task.Fills) {n : Nat} {st : Standing}
    (hidle : ¬ task.Idle st.phase) : task.after n st = ⟨.standby, n⟩ := by
  rcases h with rfl | rfl <;> exact if_neg hidle

/-- A step that a queue takes on its own stops neither the server nor the transport. -/
theorem SystemStep.Own.steady {x : SystemStep ω} (h : x.Own) : x.Steady := by
  cases x with
  | start | stop | push | disconnect | stopServer => exact h.elim
  | task | reply | serve => exact trivial

namespace Course

variable {n : Nat} {goal : Standing} {c changed : Client} {slots : List (Slot Nat)}
  {jobs : List (ServerJob Nat ω)} {owed : List (ω × Except Error Unit)}

/-- A turn of the client leads on to the same goal. -/
theorem turn (h : Course n goal c slots jobs owed) {id : Uuid} {sent : List (Command Action)}
    {events : List ClientEvent} (hturn : c.Turn true id changed sent events) :
    Course n goal changed slots (jobs ++ sent.map (.handle · 0)) owed := by
  cases h with
  | filled | told | asking | pushing => exact absurd hturn (Client.Turn.not_nil rfl rfl)
  | due phase task replies slots hreplies hslots hgoal =>
    cases hturn with
    | filled hrefill | filling _ hrefill => exact absurd hrefill.symm (Option.some_ne_none _)
    | started rest hrefill htasks hphase =>
      obtain ⟨rfl, rfl⟩ := List.cons.inj htasks
      obtain rfl : phase = .stopped := hphase
      exact .asking id replies slots hreplies hgoal
    | stopped rest hrefill htasks =>
      obtain ⟨rfl, rfl⟩ := List.cons.inj htasks
      exact .filled .stopped replies slots [] hreplies hgoal
    | refilled task rest hrefill htasks hfills hidle =>
      obtain ⟨rfl, rfl⟩ := List.cons.inj htasks
      obtain rfl := hslots hfills
      rw [hfills.after_eq hidle] at hgoal
      exact .filling n replies [] [] hreplies (Nat.zero_add n) hgoal
    | lost rest hrefill htasks hphase =>
      obtain ⟨rfl, rfl⟩ := List.cons.inj htasks
      have hlost : ¬ Task.serverGone.Idle phase := hphase
      rw [Task.after, if_neg hlost] at hgoal
      exact .filled .stopped replies slots [] hreplies hgoal
    | idle task rest hrefill htasks hidle =>
      obtain ⟨rfl, rfl⟩ := List.cons.inj htasks
      rw [Task.after_idle hidle] at hgoal
      exact .filled phase replies slots [] hreplies hgoal
  | filling left replies slots ids hreplies hcount hgoal =>
    cases hturn with
    | filled hrefill =>
      obtain rfl : left = 0 := Option.some.inj hrefill
      rw [List.map_nil, List.append_nil]
      exact .filled .standby replies slots ids hreplies (by rw [hgoal, ← hcount, Nat.add_zero])
    | filling rest hrefill =>
      obtain rfl : left = rest + 1 := Option.some.inj hrefill
      have hjobs : (fills ids ++ [⟨id, .fillBuffer⟩].map (.handle · 0) :
          List (ServerJob Nat ω)) = fills (ids ++ [id]) := by
        rw [fills, fills, List.map_append]
        rfl
      rw [hjobs]
      refine .filling rest replies slots (ids ++ [id]) hreplies ?_ hgoal
      rw [List.length_append, List.length_singleton]
      omega
    | started _ hrefill | stopped _ hrefill | refilled _ _ hrefill | lost _ hrefill
    | idle _ _ hrefill => exact absurd hrefill (Option.some_ne_none _)

/-- A look at a reply leads on to the same goal. -/
theorem look (h : Course n goal c slots jobs owed) {reply : Reply} {rest : List Reply}
    (hreplies : c.replies = reply :: rest) :
    Course n goal { c with replies := rest, tasks := c.tasks ++ reply.task?.toList } slots jobs
      owed := by
  have hplain {replies : List Reply} (hall : ∀ reply ∈ replies, reply.task? = none)
      (heq : replies = reply :: rest) :
      reply.task?.toList = [] ∧ ∀ reply ∈ rest, reply.task? = none := by
    obtain ⟨hreply, hrest⟩ := List.forall_mem_cons.mp (heq ▸ hall)
    rw [hreply]
    exact ⟨rfl, hrest⟩
  cases h with
  | filled phase replies slots ids hall hgoal =>
    obtain ⟨hnone, hrest⟩ := hplain hall hreplies
    rw [hnone]
    exact .filled phase rest slots ids hrest hgoal
  | due phase task replies slots hall hslots hgoal =>
    obtain ⟨hnone, hrest⟩ := hplain hall hreplies
    rw [hnone]
    exact .due phase task rest slots hrest hslots hgoal
  | told phase found task before after hbefore hafter htask hgoal =>
    rcases before with _ | ⟨first, before⟩
    · obtain ⟨rfl, rfl⟩ := List.cons.inj hreplies
      rw [htask]
      exact .due phase task after [] hafter (fun _ => rfl) hgoal
    · obtain ⟨rfl, rfl⟩ := List.cons.inj hreplies
      obtain ⟨hfirst, hbefore⟩ := List.forall_mem_cons.mp hbefore
      rw [hfirst]
      exact .told phase found task before after hbefore hafter htask hgoal
  | asking id replies slots hall hgoal =>
    obtain ⟨hnone, hrest⟩ := hplain hall hreplies
    rw [hnone]
    exact .asking id rest slots hrest hgoal
  | filling left replies slots ids hall hcount hgoal =>
    obtain ⟨hnone, hrest⟩ := hplain hall hreplies
    rw [hnone]
    exact .filling left rest slots ids hrest hcount hgoal
  | pushing phase name endpoint replies slots hall hgoal =>
    obtain ⟨hnone, hrest⟩ := hplain hall hreplies
    rw [hnone]
    exact .pushing phase name endpoint rest slots hrest hgoal

/-- A step of the server leads on to the same goal, and a push ends as it should, if each command
that has its turn is new to the window. -/
theorem serve {d : Direct ω} (hsolo : d.Solo c) (h : Course n goal c d.slots d.jobs owed)
    (hnew : ∀ id client rest, d.jobs = .handle ⟨id, .fillBuffer⟩ client :: rest →
      ∀ slot ∈ d.slots, slot.command.id ≠ id) :
    ∃ changed owed', d.serveStep.1.links = [⟨changed, true⟩] ∧
      Course n goal changed d.serveStep.1.slots d.serveStep.1.jobs owed' ∧
      d.serveStep.2.filterMap SystemOutput.outcome? ++ owed' = owed := by
  obtain ⟨links, slots, jobs⟩ := d
  obtain rfl : links = [⟨c, true⟩] := hsolo.links
  have hhandlers : ∀ slot ∈ slots, slot.handler = 0 := hsolo.slots
  have hone (slots : List (Slot Nat)) (slot : Slot Nat) {id : Uuid} (ids : List Uuid) :
      slots.length + (id :: ids).length = (slots ++ [slot]).length + ids.length := by
    rw [List.length_append, List.length_singleton, List.length_cons]
    omega
  cases h with
  | filled phase replies slots ids hreplies hgoal =>
    rcases ids with _ | ⟨id, ids⟩
    · rw [Direct.serveStep_nil rfl]
      exact ⟨_, [], rfl, .filled phase replies slots [] hreplies hgoal, rfl⟩
    · have hkeep : (Window.keep slots ⟨id, .fillBuffer⟩ 0 : Window.Progress Nat ω) = _ :=
        Window.keep_of_new (hnew id 0 _ rfl) 0
      rw [Direct.serveStep_fill rfl, hkeep]
      refine ⟨_, [], rfl, .filled phase replies _ ids hreplies (hgoal.trans ?_), rfl⟩
      exact congrArg (Standing.mk phase) (hone slots _ ids)
  | due phase task replies slots hreplies hslots hgoal =>
    rw [Direct.serveStep_nil rfl]
    exact ⟨_, [], rfl, .due phase task replies slots hreplies hslots hgoal, rfl⟩
  | told phase reply task before after hbefore hafter htask hgoal =>
    rw [Direct.serveStep_nil rfl]
    exact ⟨_, [], rfl, .told phase reply task before after hbefore hafter htask hgoal, rfl⟩
  | asking id replies slots hreplies hgoal =>
    rw [Direct.serveStep_start rfl]
    exact ⟨_, [], rfl, .told .waitingForServerStart .serverStarted .serverDidStart replies []
      hreplies (fun _ h => absurd h List.not_mem_nil) rfl hgoal, rfl⟩
  | filling left replies slots ids hreplies hcount hgoal =>
    rcases ids with _ | ⟨id, ids⟩
    · rw [Direct.serveStep_nil rfl]
      exact ⟨_, [], rfl, .filling left replies slots [] hreplies hcount hgoal, rfl⟩
    · have hkeep : (Window.keep slots ⟨id, .fillBuffer⟩ 0 : Window.Progress Nat ω) = _ :=
        Window.keep_of_new (hnew id 0 _ rfl) 0
      rw [Direct.serveStep_fill rfl, hkeep]
      refine ⟨_, [], rfl, .filling left replies _ ids hreplies ?_ hgoal, rfl⟩
      exact (congrArg (· + left) (hone slots _ ids).symm).trans hcount
  | pushing phase name endpoint replies slots hreplies hgoal =>
    have hplain {endpoint : String} : ∀ reply ∈ replies ++ [Reply.reconnected endpoint],
        reply.task? = none :=
      List.forall_mem_append.mpr ⟨hreplies, List.forall_mem_singleton.mpr rfl⟩
    match slots with
    | [] =>
      rw [Direct.serveStep_push_nil rfl rfl]
      exact ⟨_, [], rfl, .filled phase replies [] [] hreplies hgoal, rfl⟩
    | [first, last] =>
      have hfirst : first.handler = 0 := hhandlers first (by simp)
      have hlast : last.handler = 0 := hhandlers last (by simp)
      rw [Direct.serveStep_push_pair rfl rfl, hfirst, hlast]
      refine ⟨_, [], rfl, ?_, rfl⟩
      have htold : Course n goal
          ⟨phase, n, none, [], replies ++ .needBuffer :: [.reconnected endpoint]⟩ [] [] _ :=
        .told (ω := ω) phase .needBuffer .needBuffer replies _ hreplies
          (List.forall_mem_singleton.mpr rfl) rfl hgoal
      rw [List.append_cons] at htold
      exact htold
    | [first] =>
      have hfirst : first.handler = 0 := hhandlers first (by simp)
      rw [Direct.serveStep_push_cons rfl rfl (by decide), hfirst]
      exact ⟨_, [], rfl, .filled phase _ [] [] hplain hgoal, rfl⟩
    | first :: second :: third :: rest =>
      have hfirst : first.handler = 0 := hhandlers first (by simp)
      have hlength : (second :: third :: rest).length ≠ 1 := by
        simp only [List.length_cons]
        omega
      have hmore : (first :: second :: third :: rest).length ≠ 2 := by
        simp only [List.length_cons]
        omega
      rw [Standing.after, if_neg hmore] at hgoal
      rw [Direct.serveStep_push_cons rfl rfl hlength, hfirst]
      exact ⟨_, [], rfl, .filled phase _ (second :: third :: rest) [] hplain hgoal, rfl⟩

/-- A step of a queue leads on to the same goal, and pushes end as they should. -/
theorem step {d : Direct ω} (hsolo : d.Solo c) (h : Course n goal c d.slots d.jobs owed)
    (hnew : ∀ id client rest, d.jobs = .handle ⟨id, .fillBuffer⟩ client :: rest →
      ∀ slot ∈ d.slots, slot.command.id ≠ id) {x : SystemStep ω} (hx : x.Own) :
    ∃ changed owed', (d.step x).1.Solo changed ∧
      Course n goal changed (d.step x).1.slots (d.step x).1.jobs owed' ∧
      (d.step x).2.filterMap SystemOutput.outcome? ++ owed' = owed := by
  obtain ⟨found, hfound, -⟩ := hsolo.move x hx.steady
  have hsame {changed : Client} (hlinks : (d.step x).1.links = [⟨changed, true⟩]) :
      (d.step x).1.Solo changed := by
    obtain ⟨hlink, -⟩ := List.cons.inj (hlinks.symm.trans hfound.links)
    obtain rfl : changed = found := congrArg Link.client hlink
    exact hfound
  cases x with
  | start | stop | disconnect | push | stopServer => exact hx.elim
  | task client id =>
    rw [Direct.step_outcomes]
    rcases d.taskStep_cases client id with
      htask | ⟨link, changed, sent, events, hlink, hturn, htask⟩
    · have hstep : (d.step (.task client id)).1 = d := congrArg Prod.fst htask
      rw [hstep]
      exact ⟨c, owed, hsolo, h, rfl⟩
    · obtain ⟨rfl, rfl⟩ := hsolo.eq_of_getElem? hlink
      have hstep := congrArg Prod.fst htask
      refine ⟨changed, owed, hsame ?_, ?_, rfl⟩
      · rw [Direct.step, hstep, Direct.modifyClient, Direct.modifyLink, hsolo.links]
        rfl
      · rw [Direct.step, hstep]
        exact h.turn hturn
  | reply client =>
    rw [Direct.step_outcomes]
    rcases d.replyStep_cases client with hreply | ⟨link, reply, rest, hlink, hreplies, hreply⟩
    · have hstep : (d.step (.reply client)).1 = d := congrArg Prod.fst hreply
      rw [hstep]
      exact ⟨c, owed, hsolo, h, rfl⟩
    · obtain ⟨rfl, rfl⟩ := hsolo.eq_of_getElem? hlink
      have hstep := congrArg Prod.fst hreply
      refine ⟨{ c with replies := rest, tasks := c.tasks ++ reply.task?.toList }, owed, hsame ?_,
        ?_, rfl⟩
      · rw [Direct.step, hstep, Direct.modifyClient, Direct.modifyLink, hsolo.links]
        rfl
      · rw [Direct.step, hstep]
        exact h.look hreplies
  | serve id =>
    obtain ⟨changed, owed', hlinks, hcourse, howed⟩ := h.serve hsolo hnew
    exact ⟨changed, owed', hsame hlinks, hcourse, howed⟩

/-- Once nothing is queued, the goal is reached, and no push is left to end. -/
theorem quiet {d : Direct ω} (hsolo : d.Solo c) (h : Course n goal c d.slots d.jobs owed)
    (hquiet : d.Quiet) : c = ⟨goal.phase, n, none, [], []⟩ ∧ d.slots.length = goal.slots ∧
      owed = [] := by
  obtain ⟨links, slots, jobs⟩ := d
  obtain rfl : links = [⟨c, true⟩] := hsolo.links
  obtain ⟨hjobs, hlinks⟩ := hquiet
  obtain ⟨hrefill, htasks, hreplies⟩ := hlinks _ List.mem_cons_self
  cases h with
  | filled phase replies slots ids _ hgoal =>
    obtain rfl : replies = [] := hreplies
    obtain rfl : ids = [] := List.map_eq_nil_iff.mp hjobs
    subst hgoal
    exact ⟨rfl, rfl, rfl⟩
  | due phase task => exact absurd htasks (List.cons_ne_nil _ _)
  | told phase reply task before after =>
    exact absurd hreplies (List.append_ne_nil_of_right_ne_nil _ (List.cons_ne_nil _ _))
  | asking id => exact absurd hjobs (List.cons_ne_nil _ _)
  | filling left => exact absurd hrefill (Option.some_ne_none _)
  | pushing phase name endpoint => exact absurd hjobs (List.cons_ne_nil _ _)

/-- The queues lead on to the same goal, and pushes end as they should. -/
theorem run {d : Direct ω} {sent : List (Nat × Command Action)} {kept : List (Slot Nat)}
    (hsolo : d.Solo c) (h : Course n goal c d.slots d.jobs owed) (haccounts : d.Accounts sent kept)
    {steps : List (SystemStep ω)} (hown : ∀ x ∈ steps, x.Own)
    (hids : ((sent ++ d.sent steps).map (·.2.id)).Nodup) :
    ∃ changed owed' kept', (d.run steps).1.Solo changed ∧
      Course n goal changed (d.run steps).1.slots (d.run steps).1.jobs owed' ∧
      (d.run steps).1.Accounts (sent ++ d.sent steps) kept' ∧
      (d.run steps).2.filterMap SystemOutput.outcome? ++ owed' = owed := by
  induction steps generalizing d c owed sent kept with
  | nil =>
    rw [Direct.sent, watch, List.append_nil]
    exact ⟨c, owed, kept, hsolo, h, haccounts, rfl⟩
  | cons x rest ih =>
    obtain ⟨hx, hrest⟩ := List.forall_mem_cons.mp hown
    obtain ⟨hnext, hids'⟩ := haccounts.head hids
    have hsent : (sent.map (·.2.id)).Nodup := by
      rw [List.map_append] at hids
      exact (List.nodup_append.mp hids).1
    obtain ⟨changed, owed', hchanged, hcourse, howed⟩ :=
      h.step hsolo (fun id client rest hjobs => haccounts.new_of_nodup hsent hjobs) hx
    obtain ⟨last, owed'', kept', hlast, hcourse', hkept, howed'⟩ :=
      ih hchanged hcourse hnext hrest hids'
    refine ⟨last, owed'', kept', hlast, hcourse', ?_, ?_⟩
    · rw [Direct.sent, watch, ← List.append_assoc]
      exact hkept
    · rw [← howed, ← howed', ← List.append_assoc, ← List.filterMap_append]
      rfl

/-- A request sets out for what it leads to. -/
theorem request {d : Direct ω} {phase : Phase} (hsolo : d.Solo ⟨phase, n, none, [], []⟩)
    (hjobs : d.jobs = []) (request : Request ω) :
    ∃ c, (d.step request.step).1.Solo c ∧
      Course n (Standing.after n ⟨phase, d.slots.length⟩ request) c
        (d.step request.step).1.slots (d.step request.step).1.jobs
        (Standing.outcomes ⟨phase, d.slots.length⟩ request) := by
  have hnone : ∀ reply ∈ ([] : List Reply), reply.task? = none :=
    fun _ h => absurd h List.not_mem_nil
  cases request with
  | start =>
    refine ⟨_, hsolo.modifyClient (·.post .start), ?_⟩
    show Course n _ _ d.slots d.jobs _
    rw [hjobs]
    exact .due phase .start [] d.slots hnone (fun h => by rcases h with h | h <;> cases h) rfl
  | stop =>
    refine ⟨_, hsolo.modifyClient (·.post .stop), ?_⟩
    show Course n _ _ d.slots d.jobs _
    rw [hjobs]
    exact .due phase .stop [] d.slots hnone (fun h => by rcases h with h | h <;> cases h) rfl
  | push name endpoint =>
    refine ⟨_, ⟨hsolo.links, hsolo.slots, ?_⟩, ?_⟩
    · show ∀ job ∈ d.jobs ++ [.push endpoint (some name)], job.Solo
      rw [hjobs]
      exact List.forall_mem_singleton.mpr trivial
    · show Course n _ _ d.slots (d.jobs ++ [.push endpoint (some name)]) _
      rw [hjobs]
      exact .pushing phase name endpoint [] d.slots hnone rfl

end Course

end PacketTunnel.Ipc
