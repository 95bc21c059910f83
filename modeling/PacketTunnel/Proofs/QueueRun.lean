import Mathlib.Data.List.Range
import PacketTunnel.Ipc.SerialQueue

/-!
# Serial queues in use

A queue is used by others while its worker works: they post jobs and ask the worker to stop, also
while a job runs and posts jobs of its own. So a run of a queue consists of small moves. With its
turns the worker takes a message, or posts the next of the jobs that the one it took last has still
to post; the moves of all others may stand anywhere between them. If nobody else moves, some turns
of the worker are a step of the queue.

A run keeps a record of what happened. What it says is fixed by the order of the messages in the
channel alone: the jobs in front of the first shutdown run one after the other, as if nobody else
was there.
-/

namespace PacketTunnel.Ipc

variable {σ ι ε ρ : Type}

namespace Posted

/-- The ticket of a job; a shutdown has none. -/
def ticket? : Posted ι → Option Nat
  | run ticket _ => some ticket
  | shutdown => none

/-- The message for a job with its ticket. -/
def ofJob (x : Nat × ι) : Posted ι := run x.1 x.2

end Posted

namespace SerialQueue

/-- The worker that runs jobs in the same way and posts nothing. -/
def quiet (w : Worker σ ι ε ρ) : Worker σ ι ε ρ := fun job state =>
  { w job state with posted := [] }

/-- The job that the worker takes next, with its ticket. -/
def next? (q : SerialQueue σ ι) : Option (Nat × ι) :=
  match q.channel with
  | .run ticket job :: _ => some (ticket, job)
  | _ => none

/-- What the job that the worker takes next posts. -/
def followUps (w : Worker σ ι ε ρ) (q : SerialQueue σ ι) : List ι :=
  match q.next? with
  | some (_, job) => (w job q.state).posted
  | none => []

/-- A step takes a message without posting anything, and then come the jobs that it posts. -/
theorem step?_eq_quiet (w : Worker σ ι ε ρ) (q : SerialQueue σ ι) :
    q.step? w = (q.step? (quiet w)).map fun (taken, effects, outcomes) =>
      ((q.followUps w).foldl push taken, effects, outcomes) := by
  obtain ⟨state, channel, nextTicket, stopped⟩ := q
  match channel with
  | [] => rfl
  | .shutdown :: _ => rfl
  | .run _ _ :: _ => rfl

/-- A queue in use and what has happened to it. -/
structure InUse (σ ι ε ρ : Type) where
  /-- The queue. -/
  queue : SerialQueue σ ι
  /-- What the job that was taken last has still to post. -/
  toPost : List ι
  /-- Everything that came into the channel, in order. -/
  sent : List (Posted ι)
  /-- The jobs that were taken, in order. -/
  ran : List (Nat × ι)
  /-- What they did to their surroundings. -/
  effects : List ε
  /-- The outcomes so far. -/
  outcomes : List (Outcome ρ)

/-- What happens to a queue in use. -/
inductive Move (ι : Type) where
  /-- Somebody posts a job. A query is a post whose outcome is waited for. -/
  | post (job : ι)
  /-- Somebody asks the worker to stop, maybe the job that it runs. -/
  | shutdown
  /-- The worker has a turn. -/
  | work

/-- Whether a move is a turn of the worker. -/
def Move.isWork : Move ι → Bool
  | work => true
  | _ => false

namespace InUse

/-- A queue that nothing was posted to. -/
def start (state : σ) : InUse σ ι ε ρ := ⟨fresh state, [], [], [], [], []⟩

/-- A turn of the worker. -/
def turn (w : Worker σ ι ε ρ) (u : InUse σ ι ε ρ) : InUse σ ι ε ρ :=
  match u.toPost with
  | job :: rest =>
    { u with
      queue := u.queue.push job
      toPost := rest
      sent := u.sent ++ [.run u.queue.nextTicket job] }
  | [] =>
    match u.queue.step? (quiet w) with
    | none => u
    | some (taken, effects, outcomes) =>
      { queue := taken
        toPost := u.queue.followUps w
        sent := u.sent
        ran := u.ran ++ u.queue.next?.toList
        effects := u.effects ++ effects
        outcomes := u.outcomes ++ outcomes }

/-- Make a move. -/
def move (w : Worker σ ι ε ρ) (u : InUse σ ι ε ρ) : Move ι → InUse σ ι ε ρ
  | .post job =>
    match u.queue.post job with
    | .error _ => u
    | .ok (queue, ticket) => { u with queue, sent := u.sent ++ [.run ticket job] }
  | .shutdown =>
    { u with
      queue := u.queue.shutdown
      sent := if u.queue.stopped then u.sent else u.sent ++ [.shutdown] }
  | .work => u.turn w

/-- Make moves one after the other. -/
def run (w : Worker σ ι ε ρ) (u : InUse σ ι ε ρ) (moves : List (Move ι)) : InUse σ ι ε ρ :=
  moves.foldl (move w) u

theorem run_cons (w : Worker σ ι ε ρ) (u : InUse σ ι ε ρ) (m : Move ι) (moves : List (Move ι)) :
    u.run w (m :: moves) = (u.move w m).run w moves := rfl

theorem run_append (w : Worker σ ι ε ρ) (u : InUse σ ι ε ρ) (moves more : List (Move ι)) :
    u.run w (moves ++ more) = (u.run w moves).run w more := List.foldl_append

end InUse

/-- Jobs that run one after the other with nobody else around: the last state, what they did to
their surroundings and their outcomes. -/
def serial (w : Worker σ ι ε ρ) : σ → List (Nat × ι) → σ × List ε × List (Outcome ρ)
  | state, [] => (state, [], [])
  | state, (ticket, job) :: rest =>
    let done := w job state
    let (last, effects, outcomes) := serial w done.state rest
    (last, done.effects ++ effects, outcomeOf ticket done.result :: outcomes)

/-- The jobs in front of the first shutdown. -/
def served : List (Posted ι) → List (Nat × ι)
  | [] => []
  | .shutdown :: _ => []
  | .run ticket job :: rest => (ticket, job) :: served rest

/-- What is behind the first shutdown. -/
def unserved : List (Posted ι) → List (Posted ι)
  | [] => []
  | .shutdown :: rest => rest
  | .run _ _ :: rest => unserved rest

/-- Jobs run as far as they can be split off, and then the others. -/
theorem serial_append (w : Worker σ ι ε ρ) (state : σ) (jobs more : List (Nat × ι)) :
    serial w state (jobs ++ more) =
      ((serial w (serial w state jobs).1 more).1,
        (serial w state jobs).2.1 ++ (serial w (serial w state jobs).1 more).2.1,
        (serial w state jobs).2.2 ++ (serial w (serial w state jobs).1 more).2.2) := by
  induction jobs generalizing state with
  | nil => rfl
  | cons job jobs ih =>
    rw [List.cons_append, serial, ih]
    simp only [serial, List.append_assoc, List.cons_append]

/-- The last job finds what those before it left. -/
theorem serial_concat (w : Worker σ ι ε ρ) (state : σ) (jobs : List (Nat × ι)) (ticket : Nat)
    (job : ι) : serial w state (jobs ++ [(ticket, job)]) =
      ((w job (serial w state jobs).1).state,
        (serial w state jobs).2.1 ++ (w job (serial w state jobs).1).effects,
        (serial w state jobs).2.2 ++
          [outcomeOf ticket (w job (serial w state jobs).1).result]) := by
  rw [serial_append]
  simp only [serial, List.append_nil]

theorem ticket_outcomeOf (ticket : Nat) (result : Option ρ) :
    (outcomeOf ticket result).ticket = ticket := by
  cases result <;> rfl

/-- Each job has its outcome. -/
theorem tickets_serial (w : Worker σ ι ε ρ) (state : σ) (jobs : List (Nat × ι)) :
    (serial w state jobs).2.2.map Outcome.ticket = jobs.map Prod.fst := by
  induction jobs generalizing state with
  | nil => rfl
  | cons job jobs ih => rw [serial, List.map_cons, List.map_cons, ih, ticket_outcomeOf]

/-- Each job that is thrown away has its outcome. -/
theorem tickets_abandon (messages : List (Posted ι)) :
    (messages.filterMap (abandon (ρ := ρ))).map Outcome.ticket =
      messages.filterMap Posted.ticket? := by
  induction messages with
  | nil => rfl
  | cons m messages ih =>
    cases m with
    | run ticket job => exact congrArg (ticket :: ·) ih
    | shutdown => exact ih

theorem tickets_ofJob (jobs : List (Nat × ι)) :
    (jobs.map Posted.ofJob).filterMap Posted.ticket? = jobs.map Prod.fst := by
  induction jobs with
  | nil => rfl
  | cons job jobs ih => exact congrArg (job.1 :: ·) ih

@[simp] theorem served_ofJob_append (jobs : List (Nat × ι)) (rest : List (Posted ι)) :
    served (jobs.map Posted.ofJob ++ rest) = jobs ++ served rest := by
  induction jobs with
  | nil => rfl
  | cons job jobs ih => exact congrArg (job :: ·) ih

@[simp] theorem unserved_ofJob_append (jobs : List (Nat × ι)) (rest : List (Posted ι)) :
    unserved (jobs.map Posted.ofJob ++ rest) = unserved rest := by
  induction jobs with
  | nil => rfl
  | cons _ _ ih => exact ih

/-- Messages without a shutdown are jobs. -/
theorem eq_ofJob_served {messages : List (Posted ι)} (h : .shutdown ∉ messages) :
    messages = (served messages).map Posted.ofJob := by
  induction messages with
  | nil => rfl
  | cons m rest ih =>
    cases m with
    | run ticket job => exact congrArg (.run ticket job :: ·) (ih (mt (List.mem_cons_of_mem _) h))
    | shutdown => exact absurd (List.mem_cons_self ..) h

/-- Messages with a shutdown are jobs up to the first one. -/
theorem eq_ofJob_served_append {messages : List (Posted ι)} (h : .shutdown ∈ messages) :
    messages = (served messages).map Posted.ofJob ++ .shutdown :: unserved messages := by
  induction messages with
  | nil => cases h
  | cons m rest ih =>
    cases m with
    | run ticket job =>
      have hrest : .shutdown ∈ rest := by simpa using h
      exact congrArg (.run ticket job :: ·) (ih hrest)
    | shutdown => rfl

/-- What comes behind a shutdown is not served. -/
theorem served_append_of_mem {messages : List (Posted ι)} (h : .shutdown ∈ messages)
    (more : List (Posted ι)) : served (messages ++ more) = served messages := by
  rw [eq_ofJob_served_append h, List.append_assoc]
  exact (served_ofJob_append _ (.shutdown :: (unserved messages ++ more))).trans
    (served_ofJob_append _ (.shutdown :: unserved messages)).symm

namespace InUse

/-- The record of a queue in use agrees with its channel. -/
structure Recorded (w : Worker σ ι ε ρ) (state : σ) (u : InUse σ ι ε ρ) : Prop where
  /-- Tickets count the jobs in the order in which they came. -/
  tickets : u.sent.filterMap Posted.ticket? = List.range u.queue.nextTicket
  /-- The state is that after the jobs that ran. -/
  state_eq : u.queue.state = (serial w state u.ran).1
  /-- So is what they did. -/
  effects_eq : u.effects = (serial w state u.ran).2.1
  /-- While the worker is there, what came and was not taken is in the channel. -/
  sent_eq : u.queue.stopped = false → u.sent = u.ran.map Posted.ofJob ++ u.queue.channel
  /-- Then the outcomes are those of the jobs that ran. -/
  outcomes_eq : u.queue.stopped = false → u.outcomes = (serial w state u.ran).2.2
  /-- A worker that has stopped has nothing left to do. -/
  rest_eq : u.queue.stopped = true → u.queue.channel = [] ∧ u.toPost = []
  /-- It ran the jobs in front of the first shutdown, and what was behind it has its outcomes. -/
  stopped_eq : u.queue.stopped = true → .shutdown ∈ u.sent ∧ u.ran = served u.sent ∧
    u.outcomes = (serial w state u.ran).2.2 ++ (unserved u.sent).filterMap abandon

variable {w : Worker σ ι ε ρ} {state : σ} {u : InUse σ ι ε ρ}

theorem recorded_start (w : Worker σ ι ε ρ) (state : σ) : (start state).Recorded w state where
  tickets := rfl
  state_eq := rfl
  effects_eq := rfl
  sent_eq _ := rfl
  outcomes_eq _ := rfl
  rest_eq h := Bool.noConfusion h
  stopped_eq h := Bool.noConfusion h

/-- A message that comes in is recorded. -/
theorem Recorded.post (h : u.Recorded w state) (hstopped : u.queue.stopped = false) (job : ι)
    (toPost : List ι) :
    ({ u with
      queue := u.queue.push job
      toPost
      sent := u.sent ++ [.run u.queue.nextTicket job] } : InUse σ ι ε ρ).Recorded w state where
  tickets := by
    rw [List.filterMap_append, h.tickets]
    exact List.range_succ.symm
  state_eq := h.state_eq
  effects_eq := h.effects_eq
  sent_eq _ := by rw [h.sent_eq hstopped, List.append_assoc]; rfl
  outcomes_eq := h.outcomes_eq
  rest_eq hs := Bool.noConfusion (hstopped.symm.trans hs)
  stopped_eq hs := Bool.noConfusion (hstopped.symm.trans hs)

/-- Nothing happens any more to a queue whose worker has stopped. -/
theorem Recorded.move_of_stopped (h : u.Recorded w state) (hs : u.queue.stopped = true)
    (m : Move ι) : u.move w m = u := by
  obtain ⟨hchannel, htoPost⟩ := h.rest_eq hs
  cases m with
  | post job => rw [move, SerialQueue.post, if_pos hs]
  | shutdown => rw [move, SerialQueue.shutdown, if_pos hs, if_pos hs]
  | work =>
    rw [move, turn, htoPost]
    simp only [step?, hchannel]

theorem move_post (hs : u.queue.stopped = false) (job : ι) :
    u.move w (.post job) = { u with
      queue := u.queue.push job
      sent := u.sent ++ [.run u.queue.nextTicket job] } := by
  simp only [move, SerialQueue.post, hs, Bool.false_eq_true, ite_false]

theorem move_shutdown (hs : u.queue.stopped = false) :
    u.move w .shutdown = { u with
      queue := { u.queue with channel := u.queue.channel ++ [.shutdown] }
      sent := u.sent ++ [.shutdown] } := by
  simp only [move, SerialQueue.shutdown, hs, Bool.false_eq_true, ite_false]

theorem move_work_cons {job : ι} {rest : List ι} (htoPost : u.toPost = job :: rest) :
    u.move w .work = { u with
      queue := u.queue.push job
      toPost := rest
      sent := u.sent ++ [.run u.queue.nextTicket job] } := by
  rw [move, turn, htoPost]

theorem move_work_nil (htoPost : u.toPost = []) (hchannel : u.queue.channel = []) :
    u.move w .work = u := by
  rw [move, turn, htoPost]
  simp only [step?, hchannel]

/-- A worker that has nothing left to post runs the oldest job. -/
theorem move_work_run (htoPost : u.toPost = []) {ticket : Nat} {job : ι} {rest : List (Posted ι)}
    (hchannel : u.queue.channel = .run ticket job :: rest) :
    u.move w .work = { u with
      queue := { u.queue with state := (w job u.queue.state).state, channel := rest }
      toPost := (w job u.queue.state).posted
      ran := u.ran ++ [(ticket, job)]
      effects := u.effects ++ (w job u.queue.state).effects
      outcomes := u.outcomes ++ [outcomeOf ticket (w job u.queue.state).result] } := by
  rw [move, turn, htoPost]
  simp only [step?, followUps, next?, hchannel]
  rfl

/-- It stops at a shutdown and throws away what is behind it. -/
theorem move_work_shutdown (htoPost : u.toPost = []) {rest : List (Posted ι)}
    (hchannel : u.queue.channel = .shutdown :: rest) :
    u.move w .work = { u with
      queue := { u.queue with channel := [], stopped := true }
      toPost := []
      outcomes := u.outcomes ++ rest.filterMap abandon } := by
  rw [move, turn, htoPost]
  simp only [step?, followUps, next?, hchannel, Option.toList_none, List.append_nil]

/-- To ask a worker to stop keeps the record. -/
theorem Recorded.shutdown (h : u.Recorded w state) (hs : u.queue.stopped = false) :
    (u.move w .shutdown).Recorded w state := by
  rw [move_shutdown hs]
  exact {
    tickets := by rw [List.filterMap_append, h.tickets]; exact List.append_nil _
    state_eq := h.state_eq
    effects_eq := h.effects_eq
    sent_eq := fun _ => by rw [h.sent_eq hs, List.append_assoc]
    outcomes_eq := h.outcomes_eq
    rest_eq := fun hs' => Bool.noConfusion (hs.symm.trans hs')
    stopped_eq := fun hs' => Bool.noConfusion (hs.symm.trans hs') }

/-- To run a job keeps the record. -/
theorem Recorded.take (h : u.Recorded w state) (hs : u.queue.stopped = false)
    (htoPost : u.toPost = []) {ticket : Nat} {job : ι} {rest : List (Posted ι)}
    (hchannel : u.queue.channel = .run ticket job :: rest) :
    (u.move w .work).Recorded w state := by
  have hsent := h.sent_eq hs
  have hserial := serial_concat w state u.ran ticket job
  rw [← h.state_eq, ← h.effects_eq, ← h.outcomes_eq hs] at hserial
  rw [hchannel] at hsent
  rw [move_work_run htoPost hchannel]
  exact {
    tickets := h.tickets
    state_eq := by rw [hserial]
    effects_eq := by rw [hserial]
    sent_eq := fun _ => by
      rw [hsent, List.map_append, List.append_assoc]
      rfl
    outcomes_eq := fun _ => by rw [hserial]
    rest_eq := fun hs' => Bool.noConfusion (hs.symm.trans hs')
    stopped_eq := fun hs' => Bool.noConfusion (hs.symm.trans hs') }

/-- To stop keeps the record. -/
theorem Recorded.stop (h : u.Recorded w state) (hs : u.queue.stopped = false)
    (htoPost : u.toPost = []) {rest : List (Posted ι)}
    (hchannel : u.queue.channel = .shutdown :: rest) : (u.move w .work).Recorded w state := by
  have hsent := h.sent_eq hs
  rw [hchannel] at hsent
  have hserved : u.ran = served u.sent := by
    rw [hsent, served_ofJob_append]
    exact (List.append_nil _).symm
  have hunserved : unserved u.sent = rest := by rw [hsent, unserved_ofJob_append]; rfl
  rw [move_work_shutdown htoPost hchannel]
  exact {
    tickets := h.tickets
    state_eq := h.state_eq
    effects_eq := h.effects_eq
    sent_eq := fun hs' => Bool.noConfusion hs'
    outcomes_eq := fun hs' => Bool.noConfusion hs'
    rest_eq := fun _ => ⟨rfl, rfl⟩
    stopped_eq := fun _ =>
      ⟨hsent ▸ List.mem_append_right _ (List.mem_cons_self ..), hserved, by
        rw [hunserved, h.outcomes_eq hs]⟩ }

/-- Every move keeps the record. -/
theorem Recorded.move (h : u.Recorded w state) (m : Move ι) : (u.move w m).Recorded w state := by
  cases hs : u.queue.stopped with
  | true => exact (h.move_of_stopped hs m).symm ▸ h
  | false =>
    cases m with
    | post job =>
      rw [move_post hs]
      exact h.post hs job u.toPost
    | shutdown => exact h.shutdown hs
    | work =>
      cases htoPost : u.toPost with
      | cons job rest =>
        rw [move_work_cons htoPost]
        exact h.post hs job rest
      | nil =>
        cases hchannel : u.queue.channel with
        | nil => exact (move_work_nil (w := w) htoPost hchannel).symm ▸ h
        | cons m rest =>
          cases m with
          | run ticket job => exact h.take hs htoPost hchannel
          | shutdown => exact h.stop hs htoPost hchannel

/-- The record is kept along every run. -/
theorem Recorded.run (h : u.Recorded w state) (moves : List (Move ι)) :
    (u.run w moves).Recorded w state := by
  induction moves generalizing u with
  | nil => exact h
  | cons m moves ih => exact ih (h.move m)

/-- What came into the channel stays on record, in front of whatever comes later; so do the jobs
that ran and the outcomes. -/
theorem prefix_move (w : Worker σ ι ε ρ) (u : InUse σ ι ε ρ) (m : Move ι) :
    u.sent <+: (u.move w m).sent ∧ u.ran <+: (u.move w m).ran ∧
      u.outcomes <+: (u.move w m).outcomes := by
  cases m with
  | post job =>
    rw [InUse.move]
    split
    · exact ⟨List.prefix_refl _, List.prefix_refl _, List.prefix_refl _⟩
    · exact ⟨List.prefix_append .., List.prefix_refl _, List.prefix_refl _⟩
  | shutdown =>
    refine ⟨?_, List.prefix_refl _, List.prefix_refl _⟩
    rw [InUse.move]
    split
    · exact List.prefix_refl _
    · exact List.prefix_append ..
  | work =>
    rw [InUse.move, turn]
    split
    · exact ⟨List.prefix_append .., List.prefix_refl _, List.prefix_refl _⟩
    · split
      · exact ⟨List.prefix_refl _, List.prefix_refl _, List.prefix_refl _⟩
      · exact ⟨List.prefix_refl _, List.prefix_append .., List.prefix_append ..⟩

theorem prefix_run (w : Worker σ ι ε ρ) (u : InUse σ ι ε ρ) (moves : List (Move ι)) :
    u.sent <+: (u.run w moves).sent ∧ u.ran <+: (u.run w moves).ran ∧
      u.outcomes <+: (u.run w moves).outcomes := by
  induction moves generalizing u with
  | nil => exact ⟨List.prefix_refl _, List.prefix_refl _, List.prefix_refl _⟩
  | cons m moves ih =>
    obtain ⟨hsent, hran, houtcomes⟩ := prefix_move w u m
    obtain ⟨hsent', hran', houtcomes'⟩ := ih (u.move w m)
    exact ⟨hsent.trans hsent', hran.trans hran', houtcomes.trans houtcomes'⟩

/-- With nobody else around, turns of the worker post what is left to post. -/
theorem run_posts (w : Worker σ ι ε ρ) (u : InUse σ ι ε ρ) :
    (u.run w (List.replicate u.toPost.length .work)).queue = u.toPost.foldl push u.queue ∧
      (u.run w (List.replicate u.toPost.length .work)).toPost = [] ∧
      (u.run w (List.replicate u.toPost.length .work)).effects = u.effects ∧
      (u.run w (List.replicate u.toPost.length .work)).outcomes = u.outcomes := by
  obtain ⟨queue, toPost, sent, ran, effects, outcomes⟩ := u
  induction toPost generalizing queue sent with
  | nil => exact ⟨rfl, rfl, rfl, rfl⟩
  | cons job rest ih => exact ih (queue.push job) (sent ++ [.run queue.nextTicket job])

/-- With nobody else around, turns of the worker are a step of the queue. -/
theorem run_step? (w : Worker σ ι ε ρ) (u : InUse σ ι ε ρ) (htoPost : u.toPost = [])
    {q : SerialQueue σ ι} {effects : List ε} {outcomes : List (Outcome ρ)}
    (hstep : u.queue.step? w = some (q, effects, outcomes)) :
    ∃ n, (u.run w (List.replicate n .work)).queue = q ∧
      (u.run w (List.replicate n .work)).toPost = [] ∧
      (u.run w (List.replicate n .work)).effects = u.effects ++ effects ∧
      (u.run w (List.replicate n .work)).outcomes = u.outcomes ++ outcomes := by
  rw [step?_eq_quiet, Option.map_eq_some_iff] at hstep
  obtain ⟨⟨taken, effects, outcomes⟩, htaken, heq⟩ := hstep
  cases heq
  have hturn : u.move w .work = ⟨taken, u.queue.followUps w, u.sent,
      u.ran ++ u.queue.next?.toList, u.effects ++ effects, u.outcomes ++ outcomes⟩ := by
    rw [InUse.move, turn, htoPost]
    simp only [htaken]
  refine ⟨(u.queue.followUps w).length + 1, ?_⟩
  rw [List.replicate_succ, run_cons, hturn]
  exact run_posts w _

/-- With nobody else around, turns of the worker drain the queue. -/
theorem run_drain (w : Worker σ ι ε ρ) (u : InUse σ ι ε ρ) (htoPost : u.toPost = []) (fuel : Nat) :
    ∃ n, (u.run w (List.replicate n .work)).queue = (u.queue.drain w fuel).1 ∧
      (u.run w (List.replicate n .work)).toPost = [] ∧
      (u.run w (List.replicate n .work)).effects = u.effects ++ (u.queue.drain w fuel).2.1 ∧
      (u.run w (List.replicate n .work)).outcomes =
        u.outcomes ++ (u.queue.drain w fuel).2.2 := by
  induction fuel generalizing u with
  | zero => exact ⟨0, rfl, htoPost, (List.append_nil _).symm, (List.append_nil _).symm⟩
  | succ fuel ih =>
    cases hstep : u.queue.step? w with
    | none =>
      simp only [drain, hstep, List.append_nil]
      exact ⟨0, rfl, htoPost, rfl, rfl⟩
    | some taken =>
      obtain ⟨q, effects, outcomes⟩ := taken
      obtain ⟨n, hqueue, htoPost', heffects, houtcomes⟩ := u.run_step? w htoPost hstep
      obtain ⟨n', ih⟩ := ih (u.run w (List.replicate n .work)) htoPost'
      rw [hqueue, heffects, houtcomes, List.append_assoc, List.append_assoc, ← run_append,
        ← List.replicate_add] at ih
      simp only [drain, hstep]
      exact ⟨n + n', ih⟩

end InUse

end SerialQueue

end PacketTunnel.Ipc
