import PacketTunnel.Proofs.SoloSystem
import PacketTunnel.Proofs.UuidNumber

/-!
# How a window runs dry

A push that finds two slots asks for more, but a push that finds one slot takes it and asks for
nothing. With one client that waits in standby while nothing is queued, this is the only way to an
empty window: the window is empty just if a push found one slot and no command came after.
-/

namespace PacketTunnel.Ipc

variable {ω : Type}

/-- A push found a single slot, and the server has run nothing but pushes since. -/
def Exhausted (served : List (Serving ω)) : Prop :=
  ∃ before endpoint observer slot after,
    served = before ++ ⟨.push endpoint observer, [slot]⟩ :: after ∧
      ∀ later ∈ after, later.job.push?.isSome

/-- The last job on record decides whether the window is exhausted. -/
theorem exhausted_append (served : List (Serving ω)) (last : Serving ω) :
    Exhausted (served ++ [last]) ↔
      last.job.push?.isSome ∧ ((∃ slot, last.window = [slot]) ∨ Exhausted served) := by
  constructor
  · rintro ⟨before, endpoint, observer, slot, after, heq, hafter⟩
    rcases List.eq_nil_or_concat after with rfl | ⟨after, found, rfl⟩
    · obtain ⟨_, hlast⟩ := List.append_inj' heq rfl
      obtain rfl := List.singleton_inj.mp hlast
      exact ⟨rfl, .inl ⟨slot, rfl⟩⟩
    · rw [List.concat_eq_append] at hafter heq
      rw [← List.cons_append, ← List.append_assoc] at heq
      obtain ⟨rfl, hlast⟩ := List.append_inj' heq rfl
      obtain rfl := List.singleton_inj.mp hlast
      refine ⟨hafter last (List.mem_append_right _ (List.mem_singleton_self _)), .inr ?_⟩
      exact ⟨before, endpoint, observer, slot, after, rfl, fun later hlater =>
        hafter later (List.mem_append_left _ hlater)⟩
  · rintro ⟨hpush, ⟨slot, hslot⟩ | ⟨before, endpoint, observer, slot, after, rfl, hafter⟩⟩
    · obtain ⟨job, window⟩ := last
      cases job with
      | push endpoint observer =>
        obtain rfl : window = [slot] := hslot
        exact ⟨served, endpoint, observer, slot, [], rfl, fun _ h => absurd h List.not_mem_nil⟩
      | handle | stop | count => exact absurd hpush Bool.false_ne_true
    · refine ⟨before, endpoint, observer, slot, after ++ [last], ?_, ?_⟩
      · rw [List.append_assoc, List.cons_append]
      · intro later hlater
        rcases List.mem_append.mp hlater with hold | hnew
        · exact hafter later hold
        · rw [List.mem_singleton.mp hnew]
          exact hpush

/-- Whether the jobs that wait leave the window supplied, if `now` tells it without them. -/
def Supplied : List (ServerJob Nat ω) → Prop → Prop
  | [], now => now
  | .handle ⟨_, .start⟩ _ :: rest, _ => Supplied rest False
  | .handle ⟨_, .fillBuffer⟩ _ :: rest, _ => Supplied rest True
  | _ :: rest, now => Supplied rest now

theorem supplied_start (id : Uuid) (client : Nat) (rest : List (ServerJob Nat ω)) (now : Prop) :
    Supplied (.handle ⟨id, .start⟩ client :: rest) now ↔ Supplied rest False := Iff.rfl

theorem supplied_fill (id : Uuid) (client : Nat) (rest : List (ServerJob Nat ω)) (now : Prop) :
    Supplied (.handle ⟨id, .fillBuffer⟩ client :: rest) now ↔ Supplied rest True := Iff.rfl

theorem supplied_push (endpoint : String) (observer : Option ω) (rest : List (ServerJob Nat ω))
    (now : Prop) : Supplied (.push endpoint observer :: rest) now ↔ Supplied rest now := Iff.rfl

theorem Supplied.mono {jobs : List (ServerJob Nat ω)} {now later : Prop} (h : Supplied jobs now)
    (himp : now → later) : Supplied jobs later := by
  induction jobs with
  | nil => exact himp h
  | cons job rest ih =>
    match job with
    | .handle ⟨_, .start⟩ _ => exact h
    | .handle ⟨_, .fillBuffer⟩ _ => exact h
    | .push .. => exact ih h
    | .stop => exact ih h
    | .count => exact ih h

/-- A push that waits behind the others takes no slot that is not expected. -/
theorem Supplied.append_push {jobs : List (ServerJob Nat ω)} {now : Prop} (h : Supplied jobs now)
    (endpoint : String) (observer : Option ω) :
    Supplied (jobs ++ [.push endpoint observer]) now := by
  induction jobs generalizing now with
  | nil => exact h
  | cons job rest ih =>
    match job with
    | .handle ⟨_, .start⟩ _ => exact ih h
    | .handle ⟨_, .fillBuffer⟩ _ => exact ih h
    | .push .. => exact ih h
    | .stop => exact ih h
    | .count => exact ih h

/-- A command that waits behind the others keeps a slot open whatever they do. -/
theorem supplied_append_fill (jobs : List (ServerJob Nat ω)) (now : Prop) (id : Uuid)
    (client : Nat) : Supplied (jobs ++ [.handle ⟨id, .fillBuffer⟩ client]) now := by
  induction jobs generalizing now with
  | nil => exact trivial
  | cons job rest ih =>
    match job with
    | .handle ⟨_, .start⟩ _ => exact ih False
    | .handle ⟨_, .fillBuffer⟩ _ => exact ih True
    | .push .. => exact ih now
    | .stop => exact ih now
    | .count => exact ih now

/-- The window holds a slot, or it is exhausted, or the client is still to be asked for more. -/
def Hope (c : Client) (slots : List (Slot Nat)) (served : List (Serving ω)) : Prop :=
  slots ≠ [] ∨ Exhausted served ∨ .needBuffer ∈ c.replies ∨ .needBuffer ∈ c.tasks

/-- Hope is kept by a client that is still to be asked for more if it was before. -/
theorem Hope.of_asked {c changed : Client} {slots : List (Slot Nat)} {served : List (Serving ω)}
    (h : Hope c slots served)
    (hasked : .needBuffer ∈ c.replies ∨ .needBuffer ∈ c.tasks →
      .needBuffer ∈ changed.replies ∨ .needBuffer ∈ changed.tasks) :
    Hope changed slots served := by
  rcases h with hslots | hexhausted | hbefore
  · exact .inl hslots
  · exact .inr (.inl hexhausted)
  · exact .inr (.inr (hasked hbefore))

/-- What is true of one client and its server after `served`: a client that has filled the window
may hope, even once the jobs that wait have been run. -/
structure Supply (c : Client) (slots : List (Slot Nat)) (jobs : List (ServerJob Nat ω))
    (served : List (Serving ω)) : Prop where
  /-- A refill keeps a slot open. -/
  window : 1 ≤ c.window
  /-- A refill is under way only while the window is being filled. -/
  filling : c.refill.isSome → c.phase = .fillingServerBuffer
  /-- A window that was filled may be hoped for. -/
  hope : c.phase = .standby ∨ c.refill = some 0 → Supplied jobs (Hope c slots served)
  /-- An exhausted window is empty. -/
  empty : Exhausted served → slots = []

namespace Supply

variable {c : Client} {slots : List (Slot Nat)} {jobs : List (ServerJob Nat ω)}
  {served : List (Serving ω)}

/-- A client that neither fills its window nor waits in standby hopes for nothing. -/
theorem of_none (hwindow : 1 ≤ c.window) (hrefill : c.refill = none) (hphase : c.phase ≠ .standby)
    (hempty : Exhausted served → slots = []) : Supply c slots jobs served := by
  refine ⟨hwindow, ?_, ?_, hempty⟩
  · intro hsome
    rw [hrefill] at hsome
    exact absurd hsome Bool.false_ne_true
  · rintro (hstandby | hzero)
    · exact absurd hstandby hphase
    · exact absurd (hrefill.symm.trans hzero) (Option.some_ne_none 0).symm

/-- What leaves phase, window and refill as they are and takes no hope away keeps the supply. -/
theorem of_hope (h : Supply c slots jobs served) {changed : Client} {slots' : List (Slot Nat)}
    {jobs' : List (ServerJob Nat ω)} {served' : List (Serving ω)}
    (hphase : changed.phase = c.phase) (hwindow : changed.window = c.window)
    (hrefill : changed.refill = c.refill)
    (hhope : c.phase = .standby ∨ c.refill = some 0 → Supplied jobs (Hope c slots served) →
      Supplied jobs' (Hope changed slots' served'))
    (hempty : Exhausted served' → slots' = []) : Supply changed slots' jobs' served' := by
  refine ⟨hwindow ▸ h.window, ?_, ?_, hempty⟩
  · rw [hrefill, hphase]
    exact h.filling
  · rw [hrefill, hphase]
    intro hcase
    exact hhope hcase (h.hope hcase)

/-- A step of the client's task queue keeps the supply. -/
theorem turned (h : Supply c slots jobs served) {id : Uuid} {changed : Client}
    {sent : List (Command Action)} {events : List ClientEvent}
    (hturn : c.Turn true id changed sent events) :
    Supply changed slots (jobs ++ sent.map (.handle · 0)) served := by
  cases hturn with
  | filled hrefill =>
    rw [List.map_nil, List.append_nil]
    refine ⟨h.window, ?_, ?_, h.empty⟩
    · intro hsome
      exact absurd hsome Bool.false_ne_true
    · intro _
      exact h.hope (.inr hrefill)
  | filling left hrefill =>
    refine ⟨h.window, ?_, ?_, h.empty⟩
    · intro _
      apply h.filling
      rw [hrefill]
      rfl
    · intro _
      exact supplied_append_fill jobs _ id 0
  | started rest hrefill htasks hphase =>
    exact of_none h.window hrefill Phase.noConfusion h.empty
  | stopped rest hrefill htasks => exact of_none h.window hrefill Phase.noConfusion h.empty
  | refilled task rest hrefill htasks hfills hidle =>
    refine ⟨h.window, fun _ => rfl, ?_, h.empty⟩
    rintro (hstandby | hzero)
    · exact absurd hstandby Phase.noConfusion
    · have hwindow : c.window = 0 := Option.some.inj hzero
      have hlow := h.window
      omega
  | lost rest hrefill htasks hphase => exact of_none h.window hrefill Phase.noConfusion h.empty
  | idle task rest hrefill htasks hidle =>
    rw [List.map_nil, List.append_nil]
    refine h.of_hope rfl rfl rfl ?_ h.empty
    intro hcase hsupplied
    have hstandby : c.phase = .standby := by
      rcases hcase with hstandby | hzero
      · exact hstandby
      · exact absurd (hrefill.symm.trans hzero) (Option.some_ne_none 0).symm
    apply hsupplied.mono
    intro hhope
    apply hhope.of_asked
    rintro (hreply | htask)
    · exact .inl hreply
    · rw [htasks] at htask
      rcases List.mem_cons.mp htask with rfl | hrest
      · exact absurd (hstandby.symm.trans hidle) Phase.noConfusion
      · exact .inr hrest

/-- A command that the server has just run leaves no exhausted window. -/
theorem not_exhausted_command (command : Command Action) (client : Nat) (window : List (Slot Nat)) :
    ¬ Exhausted (served ++ [⟨.handle command client, window⟩]) := by
  rw [exhausted_append]
  exact fun h => absurd h.1 Bool.false_ne_true

/-- A move keeps the supply. -/
theorem move (h : Supply c slots jobs served) {changed : Client} {slots' : List (Slot Nat)}
    {jobs' : List (ServerJob Nat ω)} {more : List (Serving ω)}
    (hmove : Direct.Move c slots jobs changed slots' jobs' more) :
    Supply changed slots' jobs' (served ++ more) := by
  cases hmove with
  | still => exact (List.append_nil served).symm ▸ h
  | told task htask =>
    rw [List.append_nil]
    refine h.of_hope rfl rfl rfl ?_ h.empty
    intro _ hsupplied
    apply hsupplied.mono
    intro hhope
    apply hhope.of_asked
    rintro (hreply | hmem)
    · exact .inl hreply
    · exact .inr (List.mem_append_left _ hmem)
  | posted endpoint observer =>
    rw [List.append_nil]
    refine h.of_hope rfl rfl rfl ?_ h.empty
    intro _ hsupplied
    exact hsupplied.append_push endpoint observer
  | turned id _ sent events hturn =>
    rw [List.append_nil]
    exact h.turned hturn
  | looked reply rest hreplies =>
    rw [List.append_nil]
    refine h.of_hope rfl rfl rfl ?_ h.empty
    intro _ hsupplied
    apply hsupplied.mono
    intro hhope
    apply hhope.of_asked
    rintro (hreply | hmem)
    · rw [hreplies] at hreply
      rcases List.mem_cons.mp hreply with rfl | hrest
      · exact .inr (List.mem_append_right _ (List.mem_singleton_self _))
      · exact .inl hrest
    · exact .inr (List.mem_append_left _ hmem)
  | restarted id rest hjobs =>
    refine h.of_hope rfl rfl rfl ?_ ?_
    · intro _ hsupplied
      rw [hjobs, supplied_start] at hsupplied
      exact hsupplied.mono False.elim
    · intro hexhausted
      exact absurd hexhausted (not_exhausted_command _ _ _)
  | kept id rest hjobs =>
    refine h.of_hope rfl rfl rfl ?_ ?_
    · intro _ hsupplied
      rw [hjobs, supplied_fill] at hsupplied
      exact hsupplied.mono fun _ => .inl (Window.keep_ne_nil _ _ _)
    · intro hexhausted
      exact absurd hexhausted (not_exhausted_command _ _ _)
  | underflow endpoint observer rest hjobs hslots =>
    refine h.of_hope rfl rfl rfl ?_ fun _ => rfl
    intro _ hsupplied
    rw [hjobs, supplied_push] at hsupplied
    apply hsupplied.mono
    rintro (hsome | hexhausted | hasked)
    · exact absurd hslots hsome
    · exact .inr (.inl ((exhausted_append ..).mpr ⟨rfl, .inr hexhausted⟩))
    · exact .inr (.inr hasked)
  | pair endpoint observer rest first last hjobs hslots =>
    refine h.of_hope rfl rfl rfl ?_ fun _ => rfl
    intro _ hsupplied
    rw [hjobs, supplied_push] at hsupplied
    have hasked : .needBuffer ∈ c.replies ++ [Reply.needBuffer] ++ [.reconnected endpoint] :=
      List.mem_append_left _ (List.mem_append_right _ (List.mem_singleton_self _))
    exact hsupplied.mono fun _ => .inr (.inr (.inl hasked))
  | pushed endpoint observer rest first others hjobs hslots hlength =>
    cases slots' with
    | nil =>
      refine h.of_hope rfl rfl rfl ?_ fun _ => rfl
      intro _ hsupplied
      rw [hjobs, supplied_push] at hsupplied
      have hexhausted : Exhausted (served ++ [⟨.push endpoint observer, [first]⟩]) :=
        (exhausted_append ..).mpr ⟨rfl, .inl ⟨first, rfl⟩⟩
      exact hsupplied.mono fun _ => .inr (.inl hexhausted)
    | cons second others =>
      refine h.of_hope rfl rfl rfl ?_ ?_
      · intro _ hsupplied
        rw [hjobs, supplied_push] at hsupplied
        exact hsupplied.mono fun _ => .inl (List.cons_ne_nil _ _)
      · intro hexhausted
        rcases ((exhausted_append ..).mp hexhausted).2 with ⟨slot, hslot⟩ | hbefore
        · exact absurd (List.cons.inj hslot).2 (List.cons_ne_nil _ _)
        · exact absurd (hslots.symm.trans (h.empty hbefore)) (List.cons_ne_nil _ _)

end Supply

/-- Over a run of one client and its server the supply is kept. -/
theorem supply_run {d : Direct ω} {c : Client} {served : List (Serving ω)} (hsolo : d.Solo c)
    (h : Supply c d.slots d.jobs served) (steps : List (SystemStep ω))
    (hsteps : ∀ x ∈ steps, x.Steady) :
    ∃ changed, (d.run steps).1.Solo changed ∧
      Supply changed (d.run steps).1.slots (d.run steps).1.jobs (served ++ d.served steps) := by
  induction steps generalizing d c served with
  | nil => exact ⟨c, hsolo, (List.append_nil served).symm ▸ h⟩
  | cons x rest ih =>
    obtain ⟨hx, hrest⟩ := List.forall_mem_cons.mp hsteps
    obtain ⟨changed, hnext, hmove⟩ := hsolo.move x hx
    have hrun := ih hnext (h.move hmove) hrest
    rw [List.append_assoc] at hrun
    exact hrun

namespace System

/-- With one client in standby, nothing queued, the server never stopped and the transport never
disconnected, the window is empty just if a push found a single slot and nothing was kept open
since. -/
theorem buffered_eq_zero_iff (window : Nat) (hwindow : 1 ≤ window) (steps : List (SystemStep ω))
    (hsteps : ∀ x ∈ steps, x.Steady) (hquiet : ((fresh [window]).run steps).1.isQuiet)
    (hstandby : ∀ link ∈ ((fresh [window]).run steps).1.links, link.client.phase = .standby) :
    ((fresh [window]).run steps).1.server.buffered = 0 ↔
      Exhausted ((fresh [window] : System ω).served steps) := by
  have hrunning : (fresh [window] : System ω).server.Running := SerialQueue.running_fresh []
  have hstart : Supply (.fresh window) (fresh [window] : System ω).direct.slots
      (fresh [window] : System ω).direct.jobs [] :=
    .of_none hwindow rfl Phase.noConfusion fun _ => rfl
  obtain ⟨c, hsolo, hsupply⟩ := supply_run (solo_fresh window) hstart steps hsteps
  rw [List.nil_append, ← served_direct hrunning] at hsupply
  rw [← direct_run hrunning] at hsolo hsupply
  have hlinks : ((fresh [window] : System ω).run steps).1.links = [⟨c, true⟩] := hsolo.links
  have hphase : c.phase = .standby := hstandby ⟨c, true⟩ (by rw [hlinks]; exact .head _)
  constructor
  · intro hbuffered
    have hslots : ((fresh [window] : System ω).run steps).1.server.state = [] :=
      List.length_eq_zero_iff.mp hbuffered
    have hhope := hsupply.hope (.inl hphase)
    rw [direct_jobs, jobs_isQuiet hquiet] at hhope
    rw [isQuiet, hlinks, Bool.and_eq_true, List.all_cons, Bool.and_eq_true, Bool.and_eq_true,
      Bool.and_eq_true] at hquiet
    obtain ⟨_, ⟨⟨_, htasks⟩, hreplies⟩, _⟩ := hquiet
    rcases hhope with hsome | hexhausted | hreply | htask
    · exact absurd hslots hsome
    · exact hexhausted
    · rw [List.isEmpty_iff.mp hreplies] at hreply
      exact absurd hreply List.not_mem_nil
    · rw [List.isEmpty_iff.mp htasks] at htask
      exact absurd htask List.not_mem_nil
  · intro hexhausted
    exact List.length_eq_zero_iff.mpr (hsupply.empty hexhausted)

/-- Both commands of a refill are used up by a push each, before the next one arrives. -/
def starvation : List (SystemStep Unit) :=
  [.start 0, .task 0 (.numbered 0), .serve (.numbered 0), .reply 0, .task 0 (.numbered 0),
    .task 0 (.numbered 1), .serve (.numbered 0), .push () "relay", .serve (.numbered 0), .reply 0,
    .task 0 (.numbered 2), .serve (.numbered 0), .push () "relay", .serve (.numbered 0), .reply 0,
    .task 0 (.numbered 0)]

/-- At the end nothing is queued, the client is in standby, and no slot is left. -/
theorem dry_starvation : (∀ x ∈ starvation, x.Steady) ∧
    ((fresh [2]).run starvation).1.isQuiet ∧
    (∀ link ∈ ((fresh [2]).run starvation).1.links, link.client.phase = .standby) ∧
    ((fresh [2]).run starvation).1.server.buffered = 0 := by
  have hfresh : (fresh [2] : System Unit).server.Running := SerialQueue.running_fresh []
  have hrunning := (run_direct hfresh starvation).1
  have hfinal := direct_run hfresh starvation
  refine ⟨?_, isQuiet_of_direct hrunning ?_ ?_, ?_, ?_⟩
  · simp [starvation, SystemStep.Steady]
  · rw [hfinal]
    decide
  · rw [hfinal]
    decide
  · rw [← direct_links, hfinal]
    decide
  · rw [Server.buffered, ← direct_slots, hfinal]
    decide

/-- A window of two that nobody stops can be left without a slot in standby. -/
theorem not_always_supplied : ¬ ∀ window, 2 ≤ window → ∀ steps : List (SystemStep Unit),
    (∀ x ∈ steps, x.Steady) → ((fresh [window]).run steps).1.isQuiet →
    (∀ link ∈ ((fresh [window]).run steps).1.links, link.client.phase = .standby) →
    ((fresh [window]).run steps).1.server.buffered ≠ 0 := by
  intro h
  obtain ⟨hsteady, hquiet, hstandby, hdry⟩ := dry_starvation
  exact h 2 (Nat.le_refl 2) starvation hsteady hquiet hstandby hdry

/-- What took the last slot is on record. -/
theorem exhausted_starvation : Exhausted ((fresh [2]).served starvation) := by
  obtain ⟨hsteady, hquiet, hstandby, hdry⟩ := dry_starvation
  exact (buffered_eq_zero_iff 2 (by decide) starvation hsteady hquiet hstandby).mp hdry

end System

end PacketTunnel.Ipc
