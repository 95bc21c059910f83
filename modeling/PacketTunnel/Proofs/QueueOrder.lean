import PacketTunnel.Proofs.QueueRun

/-!
# What serial queues guarantee

A message comes to its turn after as many turns of the worker as the jobs in front of it need,
whatever others do meanwhile: they can only put messages behind it. So jobs in front of the first
shutdown run, in order and each once, on the state that those before left; a job behind it never
runs. Either way it has one outcome.
-/

namespace PacketTunnel.Ipc.SerialQueue.InUse

variable {σ ι ε ρ : Type} {w : Worker σ ι ε ρ} {state : σ} {u : InUse σ ι ε ρ}

/-- A worker that is there finds a state, and some messages in front of all others. -/
structure Faces (u : InUse σ ι ε ρ) (state : σ) (messages : List (Posted ι)) : Prop where
  /-- The worker is there. -/
  running : u.queue.stopped = false
  /-- The state is given. -/
  state_eq : u.queue.state = state
  /-- The messages are the oldest ones. -/
  front : messages <+: u.queue.channel

/-- A message that comes in goes behind those that are there. -/
theorem Faces.post {messages : List (Posted ι)} (h : u.Faces state messages) (job : ι)
    (toPost : List ι) (sent : List (Posted ι)) :
    ({ u with queue := u.queue.push job, toPost, sent } : InUse σ ι ε ρ).Faces state messages :=
  ⟨h.running, h.state_eq, h.front.trans (List.prefix_append ..)⟩

/-- What others do makes no difference to what the worker has in front of it. -/
theorem Faces.others {messages : List (Posted ι)} (h : u.Faces state messages) {m : Move ι}
    (hm : m.isWork = false) :
    (u.move w m).Faces state messages ∧ (u.move w m).toPost = u.toPost := by
  cases m with
  | post job =>
    rw [move_post h.running]
    exact ⟨h.post job u.toPost _, rfl⟩
  | shutdown =>
    rw [move_shutdown h.running]
    exact ⟨⟨h.running, h.state_eq, h.front.trans (List.prefix_append ..)⟩, rfl⟩
  | work => cases hm

/-- Whatever others do, the worker gets done with what it has to post, and still faces the same
messages. -/
theorem Faces.exists_turn {messages : List (Posted ι)} (h : u.Faces state messages)
    {moves : List (Move ι)} (hturns : u.toPost.length < moves.countP Move.isWork) :
    ∃ before after, moves = before ++ .work :: after ∧
      moves.countP Move.isWork = u.toPost.length + 1 + after.countP Move.isWork ∧
      (u.run w before).toPost = [] ∧ (u.run w before).Faces state messages := by
  induction moves generalizing u with
  | nil => exact absurd hturns (Nat.not_lt_zero _)
  | cons m moves ih =>
    by_cases hm : m.isWork
    · obtain rfl : m = .work := by
        cases m with
        | work => rfl
        | _ => cases hm
      rw [List.countP_cons_of_pos hm] at hturns ⊢
      cases htoPost : u.toPost with
      | nil => exact ⟨[], moves, rfl, by rw [List.length_nil]; omega, htoPost, h⟩
      | cons job rest =>
        rw [htoPost, List.length_cons] at hturns
        have hmove := move_work_cons (w := w) htoPost
        have hfaces := h.post job rest (u.sent ++ [.run u.queue.nextTicket job])
        rw [← hmove] at hfaces
        have hrest : (u.move w .work).toPost = rest := by rw [hmove]
        obtain ⟨before, after, rfl, hcount, hreached⟩ :=
          ih hfaces (by rw [hrest]; exact Nat.lt_of_succ_lt_succ hturns)
        rw [hrest] at hcount
        exact ⟨.work :: before, after, rfl, by rw [hcount, List.length_cons]; omega, hreached⟩
    · obtain ⟨hfaces, htoPost⟩ := h.others (w := w) (Bool.eq_false_iff.mpr hm)
      rw [List.countP_cons_of_neg hm] at hturns ⊢
      obtain ⟨before, after, rfl, hcount, hreached⟩ := ih hfaces (by rw [htoPost]; exact hturns)
      exact ⟨m :: before, after, rfl, by rw [hcount, htoPost], hreached⟩

/-- Whatever others do, the worker gets to the message behind some jobs once it had enough turns,
and then finds the state that these jobs leave. -/
theorem exists_reach (w : Worker σ ι ε ρ) (jobs : List (Nat × ι)) (state : σ) (k : Nat) :
    ∃ n, ∀ {u : InUse σ ι ε ρ} {messages : List (Posted ι)},
      u.Faces state (jobs.map Posted.ofJob ++ messages) → u.toPost.length = k →
      ∀ moves, n ≤ moves.countP Move.isWork → ∃ before after, moves = before ++ .work :: after ∧
        (u.run w before).toPost = [] ∧
        (u.run w before).Faces (serial w state jobs).1 messages := by
  induction jobs generalizing state k with
  | nil =>
    refine ⟨k + 1, fun {u messages} h hk moves hturns => ?_⟩
    obtain ⟨before, after, hmoves, _, hrest⟩ := h.exists_turn (w := w) (hk ▸ hturns)
    exact ⟨before, after, hmoves, hrest⟩
  | cons first jobs ih =>
    -- How long the first job takes is fixed by what it posts on the state that it finds.
    obtain ⟨ticket, job⟩ := first
    obtain ⟨n, hn⟩ := ih (w job state).state (w job state).posted.length
    refine ⟨k + 1 + n, fun {u messages} h hk moves hturns => ?_⟩
    have hfirst : u.toPost.length < moves.countP Move.isWork := by omega
    obtain ⟨before, after, rfl, hcount, htoPost, hfaces⟩ := h.exists_turn (w := w) hfirst
    obtain ⟨behind, hchannel⟩ := hfaces.front
    have hmove := move_work_run (w := w) htoPost hchannel.symm
    rw [hfaces.state_eq] at hmove
    have hnext : ((u.run w before).move w .work).Faces (w job state).state
        (jobs.map Posted.ofJob ++ messages) := by
      rw [hmove]
      exact ⟨hfaces.running, rfl, List.prefix_append ..⟩
    obtain ⟨before', after', rfl, hrest⟩ := hn hnext (by rw [hmove]) after (by omega)
    refine ⟨before ++ .work :: before', after', by simp, ?_⟩
    rw [run_append, run_cons]
    exact hrest

/-- What is true of a queue in use that had a state to begin with. -/
structure Orderly (w : Worker σ ι ε ρ) (state : σ) (u : InUse σ ι ε ρ) : Prop where
  /-- The jobs in the channel have tickets of their own, which count them in the order in which they
  were posted. -/
  tickets : u.sent.filterMap Posted.ticket? = List.range u.queue.nextTicket
  /-- Whatever is posted later, by others or by a job that runs, stands behind them. -/
  behind : ∀ moves, u.sent <+: (u.run w moves).sent
  /-- Only jobs in front of the first shutdown ran, each once, in order and without leaving one
  out. -/
  ran_prefix : u.ran <+: served u.sent
  /-- Each of them runs once the worker had enough turns, whatever others do meanwhile. -/
  runs : ∀ job ∈ served u.sent, ∃ n, ∀ moves, n ≤ moves.countP Move.isWork →
    job ∈ (u.run w moves).ran
  /-- The state is that of running them one after the other. -/
  state_eq : u.queue.state = (serial w state u.ran).1
  /-- So is what they did to their surroundings. -/
  effects_eq : u.effects = (serial w state u.ran).2.1
  /-- After a shutdown no job is added to those that the state can come from. -/
  closed : .shutdown ∈ u.sent → ∀ moves, served (u.run w moves).sent = served u.sent ∧
    ∃ jobs, jobs <+: served u.sent ∧ (u.run w moves).queue.state = (serial w state jobs).1
  /-- No job has two outcomes. -/
  once : (u.outcomes.map Outcome.ticket).Nodup
  /-- If nobody asked the worker to stop yet, a job that is posted now is taken. It has one outcome
  once the worker had enough turns: that of running it after all that was posted before. -/
  answered : .shutdown ∉ u.sent → ∀ job,
    u.queue.post job = .ok (u.queue.push job, u.queue.nextTicket) ∧
    ∃ n, ∀ moves, n ≤ moves.countP Move.isWork →
      (u.run w (.post job :: moves)).outcomes.filter (·.ticket = u.queue.nextTicket) =
        [outcomeOf u.queue.nextTicket (w job (serial w state (served u.sent)).1).result]
  /-- Behind a shutdown a job is refused, or taken and never run; its only outcome is that the queue
  is closed. -/
  refused : .shutdown ∈ u.sent → ∀ job,
    (u.queue.post job = .error .queueClosed ∧ u.move w (.post job) = u) ∨
    (u.queue.post job = .ok (u.queue.push job, u.queue.nextTicket) ∧
      ∃ n, ∀ moves, n ≤ moves.countP Move.isWork →
        (u.run w (.post job :: moves)).outcomes.filter (·.ticket = u.queue.nextTicket) =
          [⟨u.queue.nextTicket, .error .queueClosed⟩])
  /-- If nobody else moves, some turns of the worker are what it does to drain the queue. -/
  drained : u.toPost = [] → ∀ fuel, ∃ n,
    (u.run w (List.replicate n .work)).queue = (u.queue.drain w fuel).1 ∧
      (u.run w (List.replicate n .work)).toPost = [] ∧
      (u.run w (List.replicate n .work)).effects = u.effects ++ (u.queue.drain w fuel).2.1 ∧
      (u.run w (List.replicate n .work)).outcomes = u.outcomes ++ (u.queue.drain w fuel).2.2

/-- The messages up to the first shutdown are the jobs that are served. -/
theorem ofJob_served_prefix (messages : List (Posted ι)) :
    (served messages).map Posted.ofJob <+: messages := by
  by_cases h : .shutdown ∈ messages
  · exact ⟨_, (eq_ofJob_served_append h).symm⟩
  · exact ⟨[], by rw [List.append_nil, ← eq_ofJob_served h]⟩

theorem shutdown_not_mem_ofJob (jobs : List (Nat × ι)) : .shutdown ∉ jobs.map Posted.ofJob := by
  intro h
  obtain ⟨job, _, hjob⟩ := List.mem_map.mp h
  cases hjob

/-- An outcome is the only one of its ticket if no ticket has two. -/
theorem filter_ticket_eq {outcomes : List (Outcome ρ)} (h : (outcomes.map Outcome.ticket).Nodup)
    {o : Outcome ρ} (ho : o ∈ outcomes) : outcomes.filter (·.ticket = o.ticket) = [o] := by
  induction outcomes with
  | nil => cases ho
  | cons first rest ih =>
    rw [List.map_cons, List.nodup_cons] at h
    obtain ⟨hfirst, hrest⟩ := h
    cases ho with
    | head =>
      have hnone : rest.filter (·.ticket = o.ticket) = [] := by
        rw [List.filter_eq_nil_iff]
        intro other hother heq
        exact hfirst (List.mem_map.mpr ⟨other, hother, of_decide_eq_true heq⟩)
      rw [List.filter_cons_of_pos (by simp), hnone]
    | tail _ ho =>
      have hne : first.ticket ≠ o.ticket := fun heq =>
        hfirst (heq ▸ List.mem_map.mpr ⟨o, ho, rfl⟩)
      rw [List.filter_cons_of_neg (by simpa using hne), ih hrest ho]

/-- The jobs that ran are the first of those that are served; the others wait. -/
theorem Recorded.served_sent (h : u.Recorded w state) :
    served u.sent = u.ran ++ served u.queue.channel := by
  cases hs : u.queue.stopped with
  | true =>
    obtain ⟨_, hran, _⟩ := h.stopped_eq hs
    rw [(h.rest_eq hs).1, hran]
    exact (List.append_nil _).symm
  | false => rw [h.sent_eq hs, served_ofJob_append]

/-- No ticket has two outcomes. -/
theorem Recorded.nodup_outcomes (h : u.Recorded w state) :
    (u.outcomes.map Outcome.ticket).Nodup := by
  have hnodup := List.nodup_range (n := u.queue.nextTicket)
  rw [← h.tickets] at hnodup
  cases hs : u.queue.stopped with
  | true =>
    obtain ⟨hmem, hran, houtcomes⟩ := h.stopped_eq hs
    rw [eq_ofJob_served_append hmem, List.filterMap_append, tickets_ofJob] at hnodup
    rw [houtcomes, hran, List.map_append, tickets_serial, tickets_abandon]
    exact hnodup
  | false =>
    rw [h.sent_eq hs, List.filterMap_append, tickets_ofJob] at hnodup
    rw [h.outcomes_eq hs, tickets_serial]
    exact (List.nodup_append.mp hnodup).1

/-- A job that is served runs once the worker had enough turns. -/
theorem Recorded.exists_ran (h : u.Recorded w state) {job : Nat × ι} (hjob : job ∈ served u.sent) :
    ∃ n, ∀ moves, n ≤ moves.countP Move.isWork → job ∈ (u.run w moves).ran := by
  -- A job in the channel has jobs only in front of it, so the worker gets to it.
  rw [h.served_sent, List.mem_append] at hjob
  rcases hjob with hran | hwaits
  · exact ⟨0, fun moves _ => (prefix_run w u moves).2.1.mem hran⟩
  obtain ⟨before, after, hserved⟩ := List.append_of_mem hwaits
  have hstopped : u.queue.stopped = false := by
    cases hs : u.queue.stopped with
    | true =>
      rw [(h.rest_eq hs).1] at hwaits
      cases hwaits
    | false => rfl
  have hfaces : u.Faces u.queue.state
      (before.map Posted.ofJob ++ Posted.ofJob job :: after.map Posted.ofJob) := by
    refine ⟨hstopped, rfl, ?_⟩
    have hprefix := ofJob_served_prefix u.queue.channel
    rw [hserved, List.map_append] at hprefix
    exact hprefix
  obtain ⟨n, hn⟩ := exists_reach w before u.queue.state u.toPost.length
  refine ⟨n, fun moves hturns => ?_⟩
  obtain ⟨first, last, rfl, htoPost, hreached⟩ := hn hfaces rfl moves hturns
  obtain ⟨rest, hchannel⟩ := hreached.front
  have hran : job ∈ ((u.run w first).move w .work).ran := by
    rw [move_work_run htoPost hchannel.symm]
    exact List.mem_append_right _ (List.mem_singleton_self _)
  rw [run_append, run_cons]
  exact (prefix_run w _ last).2.1.mem hran

/-- A worker that was not asked to stop is there. -/
theorem Recorded.running (h : u.Recorded w state) (hmem : .shutdown ∉ u.sent) :
    u.queue.stopped = false := by
  cases hs : u.queue.stopped with
  | true => exact absurd (h.stopped_eq hs).1 hmem
  | false => rfl

/-- An outcome that is there at some moment of a run is the only one of its ticket at the end. -/
theorem Recorded.filter_outcomes (h : u.Recorded w state) {o : Outcome ρ} (ho : o ∈ u.outcomes)
    (moves : List (Move ι)) :
    (u.run w moves).outcomes.filter (·.ticket = o.ticket) = [o] :=
  filter_ticket_eq (h.run moves).nodup_outcomes ((prefix_run w u moves).2.2.mem ho)

/-- A job that is posted has one outcome once the worker had enough turns, if taking the message
behind some jobs gives it that outcome. -/
theorem Recorded.exists_outcome (h : u.Recorded w state) (hrunning : u.queue.stopped = false)
    (job : ι) {jobs : List (Nat × ι)} {messages : List (Posted ι)} {o : Outcome ρ}
    (hchannel : u.queue.channel ++ [.run u.queue.nextTicket job] =
      jobs.map Posted.ofJob ++ messages)
    (htaken : ∀ v : InUse σ ι ε ρ, v.toPost = [] →
      v.Faces (serial w u.queue.state jobs).1 messages → o ∈ (v.move w .work).outcomes) :
    ∃ n, ∀ moves, n ≤ moves.countP Move.isWork →
      (u.run w (.post job :: moves)).outcomes.filter (·.ticket = o.ticket) = [o] := by
  have hmove := move_post (w := w) hrunning job
  have hfaces : (u.move w (.post job)).Faces u.queue.state
      (jobs.map Posted.ofJob ++ messages) := by
    rw [hmove, ← hchannel]
    exact ⟨hrunning, rfl, List.prefix_refl _⟩
  obtain ⟨n, hn⟩ := exists_reach w jobs u.queue.state u.toPost.length
  refine ⟨n, fun moves hturns => ?_⟩
  obtain ⟨before, after, rfl, htoPost, hreached⟩ := hn hfaces (by rw [hmove]) moves hturns
  have hrecorded := ((h.move (.post job)).run before).move .work
  rw [run_cons, run_append, run_cons]
  exact hrecorded.filter_outcomes (htaken _ htoPost hreached) after

/-- A job that is posted before any shutdown has the outcome of running it after all that was posted
before. -/
theorem Recorded.exists_answer (h : u.Recorded w state) (hmem : .shutdown ∉ u.sent) (job : ι) :
    ∃ n, ∀ moves, n ≤ moves.countP Move.isWork →
      (u.run w (.post job :: moves)).outcomes.filter (·.ticket = u.queue.nextTicket) =
        [outcomeOf u.queue.nextTicket (w job (serial w state (served u.sent)).1).result] := by
  have hrunning := h.running hmem
  have hchannel : .shutdown ∉ u.queue.channel := by
    rw [h.sent_eq hrunning] at hmem
    exact fun hm => hmem (List.mem_append_right _ hm)
  have hstate : (serial w u.queue.state (served u.queue.channel)).1 =
      (serial w state (served u.sent)).1 := by
    rw [h.served_sent, serial_append, h.state_eq]
  have hmessages : u.queue.channel ++ [.run u.queue.nextTicket job] =
      (served u.queue.channel).map Posted.ofJob ++ [.run u.queue.nextTicket job] := by
    rw [← eq_ofJob_served hchannel]
  have houtcome := h.exists_outcome hrunning job hmessages fun v htoPost hreached => by
    obtain ⟨rest, hfront⟩ := hreached.front
    rw [move_work_run htoPost hfront.symm, hreached.state_eq, hstate]
    exact List.mem_append_right _ (List.mem_singleton_self _)
  rw [ticket_outcomeOf] at houtcome
  exact houtcome

/-- A job that is taken behind a shutdown has the outcome that the queue is closed. -/
theorem Recorded.exists_refusal (h : u.Recorded w state) (hrunning : u.queue.stopped = false)
    (hmem : .shutdown ∈ u.sent) (job : ι) :
    ∃ n, ∀ moves, n ≤ moves.countP Move.isWork →
      (u.run w (.post job :: moves)).outcomes.filter (·.ticket = u.queue.nextTicket) =
        [⟨u.queue.nextTicket, .error .queueClosed⟩] := by
  have hchannel : .shutdown ∈ u.queue.channel := by
    rw [h.sent_eq hrunning] at hmem
    exact (List.mem_append.mp hmem).resolve_left (shutdown_not_mem_ofJob _)
  have hmessages : u.queue.channel ++ [.run u.queue.nextTicket job] =
      (served u.queue.channel).map Posted.ofJob ++
        .shutdown :: (unserved u.queue.channel ++ [.run u.queue.nextTicket job]) := by
    rw [← List.cons_append, ← List.append_assoc, ← eq_ofJob_served_append hchannel]
  refine h.exists_outcome (o := ⟨u.queue.nextTicket, .error .queueClosed⟩) hrunning job hmessages
    fun v htoPost hreached => ?_
  obtain ⟨rest, hfront⟩ := hreached.front
  have hthrown : ⟨u.queue.nextTicket, .error .queueClosed⟩ ∈
      (unserved u.queue.channel ++ [Posted.run u.queue.nextTicket job] ++ rest).filterMap
        (abandon (ρ := ρ)) := by
    rw [List.filterMap_append, List.filterMap_append]
    exact List.mem_append_left _ (List.mem_append_right _ (List.mem_singleton_self _))
  rw [move_work_shutdown htoPost hfront.symm]
  exact List.mem_append_right _ hthrown

/-- A queue that is used in any way from the beginning is orderly at every moment. -/
theorem orderly_run (w : Worker σ ι ε ρ) (state : σ) (moves : List (Move ι)) :
    ((start state).run w moves).Orderly w state := by
  have h := (recorded_start w state).run moves
  generalize (start state).run w moves = u at h
  exact {
    tickets := h.tickets
    behind := fun moves => (prefix_run w u moves).1
    ran_prefix := by
      rw [h.served_sent]
      exact List.prefix_append ..
    runs := fun _ => h.exists_ran
    state_eq := h.state_eq
    effects_eq := h.effects_eq
    closed := fun hmem moves => by
      have hlater := h.run moves
      have hserved : served (u.run w moves).sent = served u.sent := by
        obtain ⟨more, hmore⟩ := (prefix_run w u moves).1
        rw [← hmore, served_append_of_mem hmem]
      refine ⟨hserved, _, ?_, hlater.state_eq⟩
      rw [← hserved, hlater.served_sent]
      exact List.prefix_append ..
    once := h.nodup_outcomes
    answered := fun hmem job => by
      refine ⟨?_, h.exists_answer hmem job⟩
      rw [SerialQueue.post, h.running hmem]
      rfl
    refused := fun hmem job => by
      cases hs : u.queue.stopped with
      | true => exact .inl ⟨by rw [SerialQueue.post, if_pos hs], h.move_of_stopped hs _⟩
      | false =>
        refine .inr ⟨?_, h.exists_refusal hs hmem job⟩
        rw [SerialQueue.post, hs]
        rfl
    drained := u.run_drain w }

/-- Job 10 is posted by job 1 and stands behind job 2, which came while job 1 ran. Job 2 breaks off,
and job 3 is behind a shutdown. -/
example :
    let w : Worker (List Nat) Nat Unit Nat := fun job seen =>
      ⟨seen ++ [job], [], if job = 1 then [10] else [], if job = 2 then none else some seen.length⟩
    let u := (start []).run w
      [.post 1, .work, .post 2, .work, .shutdown, .post 3, .work, .work, .work]
    u.queue.state = [1, 2, 10] ∧
      u.outcomes = [⟨0, .ok 0⟩, ⟨1, .error .queueClosed⟩, ⟨2, .ok 2⟩, ⟨3, .error .queueClosed⟩] :=
  ⟨rfl, rfl⟩

end PacketTunnel.Ipc.SerialQueue.InUse
