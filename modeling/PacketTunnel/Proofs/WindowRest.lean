import PacketTunnel.Proofs.UuidNumber
import PacketTunnel.Proofs.WindowCourse

/-!
# The window at rest

One client with its server is asked for one thing after the other, and each time the queues run
until nothing is queued. Whatever was asked for, the client stands by or has stopped afterwards, and
its window holds at least two slots, or none if it has stopped. So a client that stands by can be
pushed to as often as one likes.
-/

namespace PacketTunnel.Ipc

variable {ω : Type}

/-- A request, with the steps that the queues take until nothing is queued. -/
structure Round (ω : Type) where
  /-- What is asked for. -/
  request : Request ω
  /-- The steps of the queues. -/
  settling : List (SystemStep ω)

/-- The steps of a round. -/
def Round.steps (round : Round ω) : List (SystemStep ω) := round.request.step :: round.settling

namespace Standing

/-- A client stands by with at least two slots, or it has stopped with none or with at least two;
there are never more than `n`. -/
def Sound (n : Nat) (st : Standing) : Prop :=
  st.phase = .standby ∧ 2 ≤ st.slots ∧ st.slots ≤ n ∨
    st.phase = .stopped ∧ (st.slots = 0 ∨ 2 ≤ st.slots ∧ st.slots ≤ n)

/-- What several requests lead to. -/
def afterAll (n : Nat) (st : Standing) (requests : List (Request ω)) : Standing :=
  requests.foldl (after n) st

/-- How the pushes among several requests end. -/
def outcomesAll (n : Nat) (st : Standing) : List (Request ω) → List (ω × Except Error Unit)
  | [] => []
  | request :: rest => st.outcomes request ++ outcomesAll n (st.after n request) rest

variable {n : Nat} {st : Standing}

/-- To start leads from a stop to a full window, and else to nothing new. -/
theorem after_start (h : st.Sound n) : (st.after n (.start : Request ω)).phase = .standby ∧
    (st.phase = .stopped → (st.after n (.start : Request ω)).slots = n) := by
  rcases h with ⟨hphase, -⟩ | ⟨hphase, -⟩
  · have hidle : Task.start.Idle st.phase := by
      rw [hphase]
      decide
    rw [after, Task.after_idle hidle, hphase]
    exact ⟨rfl, fun h => absurd h (by decide)⟩
  · have hbusy : ¬ Task.start.Idle st.phase := not_not_intro hphase
    rw [after, Task.after, if_neg hbusy]
    exact ⟨rfl, fun _ => rfl⟩

/-- A push leaves the phase as it is. -/
theorem phase_after_push (h : st.Sound n) (name : ω) (endpoint : String) :
    (st.after n (.push name endpoint)).phase = st.phase := by
  rw [after]
  split
  · rcases h with ⟨hphase, -⟩ | ⟨hphase, -⟩ <;> rw [hphase] <;> rfl
  · rfl

/-- Each request leads from a sound standing to a sound one. -/
theorem Sound.after (hn : 2 ≤ n) (h : st.Sound n) (request : Request ω) :
    (st.after n request).Sound n := by
  cases request with
  | start =>
    rcases h with ⟨hphase, hslots⟩ | ⟨hphase, hslots⟩
    · have hidle : Task.start.Idle st.phase := by
        rw [hphase]
        decide
      rw [Standing.after, Task.after_idle hidle]
      exact .inl ⟨hphase, hslots⟩
    · have hbusy : ¬ Task.start.Idle st.phase := not_not_intro hphase
      rw [Standing.after, Task.after, if_neg hbusy]
      exact .inl ⟨rfl, hn, Nat.le_refl n⟩
  | stop =>
    refine .inr ⟨rfl, ?_⟩
    rcases h with ⟨-, hslots⟩ | ⟨-, hslots⟩
    · exact .inr hslots
    · exact hslots
  | push name endpoint =>
    rw [Standing.after]
    split
    · next htwo =>
      rcases h with ⟨hphase, -⟩ | ⟨hphase, -⟩
      · have hbusy : ¬ Task.needBuffer.Idle st.phase := by
          rw [hphase]
          decide
        rw [Task.after, if_neg hbusy]
        exact .inl ⟨rfl, hn, Nat.le_refl n⟩
      · have hidle : Task.needBuffer.Idle (Standing.mk st.phase 0).phase := hphase
        rw [Task.after_idle hidle]
        exact .inr ⟨hphase, .inl rfl⟩
    · next htwo =>
      rcases h with ⟨hphase, hslots⟩ | ⟨hphase, hslots⟩
      · exact .inl ⟨hphase, by dsimp only; omega⟩
      · exact .inr ⟨hphase, by dsimp only; omega⟩

theorem Sound.afterAll (hn : 2 ≤ n) (h : st.Sound n) (requests : List (Request ω)) :
    (st.afterAll n requests).Sound n := by
  induction requests generalizing st with
  | nil => exact h
  | cons request rest ih => exact ih (h.after hn request)

/-- A client that stands by stays so, whatever is pushed, and every push succeeds. -/
theorem Sound.pushes (hn : 2 ≤ n) (h : st.Sound n) (hphase : st.phase = .standby)
    (pushes : List (ω × String)) :
    (st.afterAll n (pushes.map fun p => .push p.1 p.2)).phase = .standby ∧
      st.outcomesAll n (pushes.map fun p => .push p.1 p.2) = pushes.map fun p => (p.1, .ok ()) := by
  induction pushes generalizing st with
  | nil => exact ⟨hphase, rfl⟩
  | cons push rest ih =>
    have hnext := (phase_after_push h push.1 push.2).trans hphase
    obtain ⟨hlast, houtcomes⟩ := ih (h.after hn (.push push.1 push.2)) hnext
    refine ⟨hlast, ?_⟩
    have hslots : st.slots ≠ 0 := by
      rcases h with ⟨-, hslots, -⟩ | ⟨hstopped, -⟩
      · omega
      · rw [hphase] at hstopped
        exact absurd hstopped (by decide)
    rw [List.map_cons, outcomesAll, houtcomes, outcomes, if_neg hslots]
    rfl

end Standing

namespace Direct

/-- One client and its server at rest, with nothing queued. -/
structure Stands (n : Nat) (st : Standing) (d : Direct ω) : Prop where
  /-- The client has nothing to do. -/
  solo : d.Solo ⟨st.phase, n, none, [], []⟩
  /-- So many slots are held. -/
  slots : d.slots.length = st.slots
  /-- No job waits. -/
  jobs : d.jobs = []

/-- A round leads to the standing that its request leads to. -/
theorem Stands.round {n : Nat} {st : Standing} {d : Direct ω} (h : d.Stands n st)
    {sent : List (Nat × Command Action)} {kept : List (Slot Nat)} (haccounts : d.Accounts sent kept)
    {round : Round ω} (hown : ∀ x ∈ round.settling, x.Own) (hquiet : (d.run round.steps).1.Quiet)
    (hids : ((sent ++ d.sent round.steps).map (·.2.id)).Nodup) :
    (d.run round.steps).1.Stands n (st.after n round.request) ∧
      (∃ kept', (d.run round.steps).1.Accounts (sent ++ d.sent round.steps) kept') ∧
      (d.run round.steps).2.filterMap SystemOutput.outcome? = st.outcomes round.request := by
  obtain ⟨c, hsolo, hcourse⟩ := Course.request h.solo h.jobs round.request
  obtain ⟨hnext, hrest⟩ := haccounts.head hids
  obtain ⟨changed, owed, kept', hchanged, hlast, hkept, howed⟩ :=
    hcourse.run hsolo hnext hown hrest
  obtain ⟨rfl, hslots, rfl⟩ := hlast.quiet hchanged hquiet
  have hjobs : (d.run round.steps).1.jobs = [] := hquiet.1
  rw [h.slots] at howed hchanged hslots
  refine ⟨⟨hchanged, hslots, hjobs⟩, ⟨kept', ?_⟩, ?_⟩
  · rw [Round.steps, sent_cons, ← List.append_assoc]
    exact hkept
  · have hnone : (d.step round.request.step).2 = [] := by
      cases round.request <;> rfl
    rw [List.append_nil] at howed
    rw [Round.steps, output_run_cons, hnone]
    exact howed

/-- In each round nothing but queues takes steps, until nothing is queued. -/
def Settles (d : Direct ω) : List (Round ω) → Prop
  | [] => True
  | round :: rest => (∀ x ∈ round.settling, x.Own) ∧ (d.run round.steps).1.Quiet ∧
    (d.run round.steps).1.Settles rest

instance (d : Direct ω) : Decidable d.Quiet :=
  inferInstanceAs (Decidable (d.jobs = [] ∧ ∀ link ∈ d.links,
    link.client.refill = none ∧ link.client.tasks = [] ∧ link.client.replies = []))

instance decidableSettles (d : Direct ω) : (rounds : List (Round ω)) → Decidable (d.Settles rounds)
  | [] => inferInstanceAs (Decidable True)
  | round :: rest =>
    have := decidableSettles (d.run round.steps).1 rest
    inferInstanceAs (Decidable ((∀ x ∈ round.settling, x.Own) ∧
      (d.run round.steps).1.Quiet ∧ (d.run round.steps).1.Settles rest))

theorem settles_append {d : Direct ω} {rounds more : List (Round ω)} :
    d.Settles (rounds ++ more) ↔
      d.Settles rounds ∧ (d.run (rounds.flatMap Round.steps)).1.Settles more := by
  induction rounds generalizing d with
  | nil => exact ⟨fun h => ⟨trivial, h⟩, And.right⟩
  | cons round rest ih =>
    rw [List.cons_append, Settles, Settles, ih, List.flatMap_cons, run_append, and_assoc, and_assoc]

/-- Rounds lead to the standing that their requests lead to. -/
theorem Stands.rounds {n : Nat} {st : Standing} {d : Direct ω} (h : d.Stands n st)
    {sent : List (Nat × Command Action)} {kept : List (Slot Nat)} (haccounts : d.Accounts sent kept)
    {rounds : List (Round ω)} (hrounds : d.Settles rounds)
    (hids : ((sent ++ d.sent (rounds.flatMap Round.steps)).map (·.2.id)).Nodup) :
    (d.run (rounds.flatMap Round.steps)).1.Stands n (st.afterAll n (rounds.map (·.request))) ∧
      (∃ kept', (d.run (rounds.flatMap Round.steps)).1.Accounts
        (sent ++ d.sent (rounds.flatMap Round.steps)) kept') ∧
      (d.run (rounds.flatMap Round.steps)).2.filterMap SystemOutput.outcome? =
        st.outcomesAll n (rounds.map (·.request)) := by
  induction rounds generalizing d st sent kept with
  | nil =>
    refine ⟨h, ⟨kept, ?_⟩, rfl⟩
    rw [List.flatMap_nil, Direct.sent, watch, List.append_nil]
    exact haccounts
  | cons round rest ih =>
    obtain ⟨hown, hquiet, hrest⟩ := hrounds
    rw [List.flatMap_cons, sent_append, ← List.append_assoc] at hids
    have hfirst : ((sent ++ d.sent round.steps).map (·.2.id)).Nodup := by
      rw [List.map_append] at hids
      exact (List.nodup_append.mp hids).1
    obtain ⟨hnext, ⟨kept', hkept⟩, houtcomes⟩ := h.round haccounts hown hquiet hfirst
    obtain ⟨hlast, haccounts', hmore⟩ := ih hnext hkept hrest hids
    rw [List.flatMap_cons, sent_append, ← List.append_assoc, run_append, output_run_append,
      List.filterMap_append, houtcomes, hmore]
    exact ⟨hlast, haccounts', rfl⟩

end Direct

namespace System

/-- In each round nothing but queues takes steps, until nothing is queued. -/
def Settles (s : System ω) : List (Round ω) → Prop
  | [] => True
  | round :: rest => (∀ x ∈ round.settling, x.Own) ∧ (s.run round.steps).1.isQuiet ∧
    (s.run round.steps).1.Settles rest

/-- Nothing is queued in the direct system if nothing is queued. -/
theorem quiet_of_isQuiet {s : System ω} (h : s.isQuiet) : s.direct.Quiet := by
  refine ⟨jobs_isQuiet h, fun link hlink => ?_⟩
  rw [isQuiet, Bool.and_eq_true, List.all_eq_true] at h
  have hidle := h.2 link hlink
  rw [Bool.and_eq_true, Bool.and_eq_true] at hidle
  exact ⟨Option.isNone_iff_eq_none.mp hidle.1.1, List.isEmpty_iff.mp hidle.1.2,
    List.isEmpty_iff.mp hidle.2⟩

theorem settles_direct {s : System ω} (h : s.server.Running) {rounds : List (Round ω)} :
    s.Settles rounds ↔ s.direct.Settles rounds := by
  induction rounds generalizing s with
  | nil => exact Iff.rfl
  | cons round rest ih =>
    have hrunning := (run_direct h round.steps).1
    rw [Settles, Direct.Settles, ← direct_run h, ih hrunning]
    exact and_congr_right fun _ => and_congr_left fun _ =>
      ⟨quiet_of_isQuiet, isQuiet_of_quiet hrunning⟩

/-- Whatever is asked for, nothing is queued in the end if the queues take their steps. -/
theorem isQuiet_of_request {s : System ω} (h : s.server.Running) (hlinks : s.links.length = 1)
    (request : Request ω) {schedule : Nat → SystemStep ω} (hfair : Fair 1 schedule) :
    ∃ k, (s.run (request.step :: (List.range k).map schedule)).1.isQuiet := by
  have hsame : (s.step request.step).1.links.length = 1 :=
    (length_links_run h [request.step]).trans hlinks
  exact isQuiet_of_fair (step_direct h request.step).1 (hsame ▸ hfair)

/-- Whatever is asked for, one thing after the other, there are rounds in which it is. -/
theorem exists_settles {s : System ω} (h : s.server.Running) (hlinks : s.links.length = 1)
    (ids : Nat → Uuid) (requests : List (Request ω)) :
    ∃ rounds, rounds.map (·.request) = requests ∧ s.Settles rounds := by
  induction requests generalizing s with
  | nil => exact ⟨[], rfl, trivial⟩
  | cons request rest ih =>
    have hfair := fair_inTurn (ω := ω) ids
    obtain ⟨k, hquiet⟩ := isQuiet_of_request h hlinks request hfair
    let round : Round ω := ⟨request, (List.range k).map (inTurn ids)⟩
    obtain ⟨rounds, hrequests, hrounds⟩ :=
      ih (run_direct h round.steps).1 ((length_links_run h round.steps).trans hlinks)
    refine ⟨round :: rounds, congrArg (request :: ·) hrequests, fun x hx => ?_, hquiet, hrounds⟩
    obtain ⟨i, -, rfl⟩ := List.mem_map.mp hx
    exact hfair.own i

/-- Where the clients stand. -/
def phases (s : System ω) : List Phase := s.links.map (·.client.phase)

/-- What holds of one client with a window of `n` and its server when nothing is queued, with `more`
rounds to come. -/
structure AtRest (n : Nat) (s : System ω) (more : List (Round ω)) : Prop where
  /-- The client stands by with two slots or more, or it has stopped with none or with two or more;
  there are never more than `n`. -/
  standing : s.phases = [.standby] ∧ 2 ≤ s.server.buffered ∧ s.server.buffered ≤ n ∨
    s.phases = [.stopped] ∧
      (s.server.buffered = 0 ∨ 2 ≤ s.server.buffered ∧ s.server.buffered ≤ n)
  /-- A push fails if there is no slot, and only then. -/
  push : ∀ name endpoint, more.map (·.request) = [.push name endpoint] →
    (s.run (more.flatMap Round.steps)).2.filterMap SystemOutput.outcome? =
      [(name, if s.server.buffered = 0 then .error .bufferUnderflow else .ok ())]
  /-- While the client stands by, any number of pushes succeed, and it stands by afterwards. -/
  pushes : ∀ pushes : List (ω × String), s.phases = [.standby] →
    more.map (·.request) = pushes.map (fun p => .push p.1 p.2) →
    (s.run (more.flatMap Round.steps)).1.phases = [.standby] ∧
      (s.run (more.flatMap Round.steps)).2.filterMap SystemOutput.outcome? =
        pushes.map fun p => (p.1, .ok ())
  /-- To start again after a stop leads to a full window. -/
  restart : s.phases = [.stopped] → more.map (·.request) = [.start] →
    (s.run (more.flatMap Round.steps)).1.phases = [.standby] ∧
      (s.run (more.flatMap Round.steps)).1.server.buffered = n
  /-- Whatever is asked for, nothing is queued in the end if every queue takes its steps. -/
  settles : ∀ (request : Request ω) (schedule : Nat → SystemStep ω), Fair 1 schedule →
    ∃ k, (s.run (request.step :: (List.range k).map schedule)).1.isQuiet

theorem phases_of_stands {n : Nat} {st : Standing} {s : System ω} (h : s.direct.Stands n st) :
    s.phases = [st.phase] := by
  rw [phases, ← direct_links, h.solo.links]
  rfl

/-- One client with a window of two or more, its server never stopped and its transport never
disconnected: whatever it was asked for, once nothing is queued it stands by or has stopped with a
window that is sound, and what it is asked for next comes out as it should. -/
theorem atRest_of_settles {n : Nat} (hn : 2 ≤ n) {rounds more : List (Round ω)}
    (hrounds : (fresh [n]).Settles (rounds ++ more))
    (hids : (((fresh [n]).sent ((rounds ++ more).flatMap Round.steps)).map (·.2.id)).Nodup) :
    ((fresh [n]).run (rounds.flatMap Round.steps)).1.AtRest n more := by
  have hfresh : (fresh [n] : System ω).server.Running := SerialQueue.running_fresh []
  obtain ⟨hbefore, hmore⟩ := Direct.settles_append.mp ((settles_direct hfresh).mp hrounds)
  rw [sent_direct hfresh, List.flatMap_append, Direct.sent_append] at hids
  have hfirst : (((fresh [n] : System ω).direct.sent (rounds.flatMap Round.steps)).map
      (·.2.id)).Nodup := by
    rw [List.map_append] at hids
    exact (List.nodup_append.mp hids).1
  have hstart : (fresh [n] : System ω).direct.Stands n ⟨.stopped, 0⟩ := ⟨solo_fresh n, rfl, rfl⟩
  have hnone : (fresh [n] : System ω).direct.Accounts [] [] := by
    refine ⟨List.nil_suffix, List.nil_sublist _, fun _ h => absurd h List.not_mem_nil⟩
  obtain ⟨hstands, ⟨kept, haccounts⟩, -⟩ := hstart.rounds hnone hbefore hfirst
  obtain ⟨hlast, -, houtcomes⟩ := hstands.rounds haccounts hmore hids
  have hsound : (Standing.afterAll n ⟨.stopped, 0⟩ (rounds.map (·.request))).Sound n :=
    Standing.Sound.afterAll hn (.inr ⟨rfl, .inl rfl⟩) _
  generalize Standing.afterAll n ⟨.stopped, 0⟩ (rounds.map (·.request)) = st at *
  have hrunning := (run_direct hfresh (rounds.flatMap Round.steps)).1
  rw [← direct_run hfresh] at hstands hlast houtcomes
  generalize ((fresh [n] : System ω).run (rounds.flatMap Round.steps)).1 = s at *
  rw [← output_run hrunning] at houtcomes
  rw [← direct_run hrunning] at hlast
  have hphases := phases_of_stands hstands
  have hbuffered : s.server.buffered = st.slots := hstands.slots
  have hlater := phases_of_stands hlast
  refine ⟨?_, ?_, ?_, ?_, ?_⟩
  · rw [hphases, hbuffered, List.singleton_inj, List.singleton_inj]
    exact hsound
  · intro name endpoint hrequests
    rw [houtcomes, hrequests, hbuffered]
    rfl
  · intro pushes hstandby hrequests
    have hphase : st.phase = .standby := (List.cons.inj (hphases.symm.trans hstandby)).1
    obtain ⟨hafter, hall⟩ := hsound.pushes hn hphase pushes
    rw [hlater, houtcomes, hrequests, hafter, hall]
    exact ⟨rfl, rfl⟩
  · intro hstopped hrequests
    have hphase : st.phase = .stopped := (List.cons.inj (hphases.symm.trans hstopped)).1
    obtain ⟨hafter, hfull⟩ := Standing.after_start (ω := ω) hsound
    have hslots := hlast.slots
    rw [hrequests] at hlater hslots
    exact ⟨hlater.trans (congrArg ([·]) hafter), hslots.trans (hfull hphase)⟩
  · intro request schedule hfair
    exact isQuiet_of_request hrunning (congrArg List.length hstands.solo.links) request hfair

/-- A client with a window of two starts, with commands numbered from `first` on. -/
def starting (first : Nat) : Round Unit :=
  ⟨.start, [.task 0 (.numbered first), .serve (.numbered 0), .reply 0, .task 0 (.numbered 0),
    .task 0 (.numbered (first + 1)), .serve (.numbered 0), .task 0 (.numbered (first + 2)),
    .serve (.numbered 0), .task 0 (.numbered 0)]⟩

/-- A push uses up both slots, and the client fills its window again. -/
def refilling (first : Nat) : Round Unit :=
  ⟨.push () "relay", [.serve (.numbered 0), .reply 0, .reply 0, .task 0 (.numbered 0),
    .task 0 (.numbered first), .task 0 (.numbered (first + 1)), .serve (.numbered 0),
    .serve (.numbered 0), .task 0 (.numbered 0)]⟩

/-- A client stops. -/
def stopping : Round Unit := ⟨.stop, [.task 0 (.numbered 0)]⟩

/-- A client with a window of two that has stopped with two slots starts again. -/
theorem atRest_startedAgain :
    (fresh [2]).Settles ([starting 0, refilling 3, stopping] ++ [starting 5]) ∧
    ((fresh [2]).run ([starting 0, refilling 3, stopping].flatMap Round.steps)).1.AtRest 2
      [starting 5] := by
  have hfresh : (fresh [2] : System Unit).server.Running := SerialQueue.running_fresh []
  have hsettles : (fresh [2]).Settles ([starting 0, refilling 3, stopping] ++ [starting 5]) := by
    rw [settles_direct hfresh]
    decide
  have hids : (((fresh [2]).sent (([starting 0, refilling 3, stopping] ++ [starting 5]).flatMap
      Round.steps)).map (·.2.id)).Nodup := by
    rw [sent_direct hfresh]
    decide
  exact ⟨hsettles, atRest_of_settles (by decide) hsettles hids⟩

end System

end PacketTunnel.Ipc
