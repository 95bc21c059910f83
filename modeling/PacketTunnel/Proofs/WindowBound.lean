import Mathlib.Algebra.GroupWithZero.Nat
import PacketTunnel.Proofs.SoloSystem

/-!
# Bounds of a window

A refill sends as many commands as the window is to hold. That keeps the window in bounds while
every refill begins with nothing in the window and nothing under way. A client that nobody asks for
more begins its refills so.
-/

namespace PacketTunnel.Ipc

variable {ω : Type}

/-- How many slots the window holds once the jobs that wait have been run, if no push takes any. -/
def surviving : List (ServerJob Nat ω) → Nat → Nat
  | [], slots => slots
  | .handle ⟨_, .start⟩ _ :: rest, _ => surviving rest 0
  | .handle ⟨_, .fillBuffer⟩ _ :: rest, slots => surviving rest (slots + 1)
  | .push _ _ :: rest, slots => surviving rest slots
  | .stop :: rest, _ => surviving rest 0
  | .count :: rest, slots => surviving rest slots

theorem surviving_mono (jobs : List (ServerJob Nat ω)) {slots more : Nat} (h : slots ≤ more) :
    surviving jobs slots ≤ surviving jobs more := by
  induction jobs generalizing slots more with
  | nil => exact h
  | cons job rest ih =>
    match job with
    | .handle ⟨_, .start⟩ _ => exact Nat.le_refl _
    | .handle ⟨_, .fillBuffer⟩ _ => exact ih (Nat.succ_le_succ h)
    | .push _ _ => exact ih h
    | .stop => exact Nat.le_refl _
    | .count => exact ih h

theorem surviving_append (jobs more : List (ServerJob Nat ω)) (slots : Nat) :
    surviving (jobs ++ more) slots = surviving more (surviving jobs slots) := by
  induction jobs generalizing slots with
  | nil => rfl
  | cons job rest ih =>
    match job with
    | .handle ⟨_, .start⟩ _ => exact ih 0
    | .handle ⟨_, .fillBuffer⟩ _ => exact ih (slots + 1)
    | .push _ _ => exact ih slots
    | .stop => exact ih 0
    | .count => exact ih slots

/-- What is true of one client and its server while the window is in bounds. -/
structure Capacity (n : Nat) (c : Client) (slots : List (Slot Nat))
    (jobs : List (ServerJob Nat ω)) : Prop where
  /-- The size of a refill. -/
  window : c.window = n
  /-- The window is in bounds, also after some of the jobs that wait. -/
  peak : ∀ earlier, earlier <+: jobs → surviving earlier slots.length ≤ n
  /-- It stays so when the refill at hand has sent its commands. -/
  load : surviving jobs slots.length + c.refill.getD 0 ≤ n
  /-- A client that waits for its server finds an empty window. -/
  waiting : c.phase = .waitingForServerStart →
    surviving jobs slots.length + c.refill.getD 0 = 0
  /-- A refill is under way only while the window is being filled. -/
  filling : c.refill.isSome → c.phase = .fillingServerBuffer

namespace Capacity

variable {n : Nat} {c : Client} {slots : List (Slot Nat)} {jobs : List (ServerJob Nat ω)}

/-- What only touches tasks and replies changes nothing. -/
theorem of_same (h : Capacity n c slots jobs) {changed : Client}
    (hphase : changed.phase = c.phase) (hwindow : changed.window = c.window)
    (hrefill : changed.refill = c.refill) : Capacity n changed slots jobs := by
  refine ⟨hwindow.trans h.window, h.peak, ?_, ?_, ?_⟩
  · rw [hrefill]
    exact h.load
  · rw [hrefill, hphase]
    exact h.waiting
  · rw [hrefill, hphase]
    exact h.filling

/-- A job that waits behind the others must find room. -/
theorem peak_append (h : Capacity n c slots jobs) {job : ServerJob Nat ω}
    (hroom : surviving [job] (surviving jobs slots.length) ≤ n) :
    ∀ earlier, earlier <+: jobs ++ [job] → surviving earlier slots.length ≤ n := by
  intro earlier hearlier
  rcases List.prefix_concat_iff.mp hearlier with rfl | hbefore
  · rw [surviving_append]
    exact hroom
  · exact h.peak earlier hbefore

/-- A job that is run leaves no more slots than were reckoned with. -/
theorem serve (h : Capacity n c slots jobs) {changed : Client} {job : ServerJob Nat ω}
    {rest : List (ServerJob Nat ω)} {slots' : List (Slot Nat)} (hphase : changed.phase = c.phase)
    (hwindow : changed.window = c.window) (hrefill : changed.refill = c.refill)
    (hjobs : jobs = job :: rest)
    (hslots : ∀ later, surviving later slots'.length ≤ surviving (job :: later) slots.length) :
    Capacity n changed slots' rest := by
  subst hjobs
  have hall := hslots rest
  refine ⟨hwindow.trans h.window, ?_, ?_, ?_, ?_⟩
  · intro earlier hearlier
    have hpeak := h.peak (job :: earlier) (List.cons_prefix_cons.mpr ⟨rfl, hearlier⟩)
    exact Nat.le_trans (hslots earlier) hpeak
  · rw [hrefill]
    exact Nat.le_trans (Nat.add_le_add_right hall _) h.load
  · intro hwaiting
    rw [hphase] at hwaiting
    have hzero := h.waiting hwaiting
    rw [hrefill]
    omega
  · rw [hrefill, hphase]
    exact h.filling

/-- A client that has no refill at hand, and does not wait for its server, leaves the window as it
is. -/
theorem of_none (h : Capacity n c slots jobs) {changed : Client}
    (hwindow : changed.window = c.window) (hrefill : changed.refill = none)
    (hphase : changed.phase ≠ .waitingForServerStart) : Capacity n changed slots jobs := by
  have hload := h.load
  refine ⟨hwindow.trans h.window, h.peak, ?_, ?_, ?_⟩
  · rw [hrefill, Option.getD_none]
    omega
  · intro hwaiting
    exact absurd hwaiting hphase
  · intro hsome
    rw [hrefill] at hsome
    exact absurd hsome Bool.false_ne_true

/-- A step of the client's task queue keeps the window in bounds, if a refill begins with nothing
under way. -/
theorem turned (h : Capacity n c slots jobs) {id : Uuid} {changed : Client}
    {sent : List (Command Action)} {events : List ClientEvent}
    (hturn : c.Turn true id changed sent events)
    (hbegin : c.refill = none → changed.refill.isSome → surviving jobs slots.length = 0) :
    Capacity n changed slots (jobs ++ sent.map (.handle · 0)) := by
  have hload := h.load
  cases hturn with
  | filled hrefill =>
    rw [List.map_nil, List.append_nil]
    exact h.of_none rfl rfl Phase.noConfusion
  | filling left hrefill =>
    have hphase : c.phase = .fillingServerBuffer := h.filling (by rw [hrefill]; rfl)
    have hsome : (if c.phase = .stopped then none else some left) = some left := by
      rw [hphase]
      rfl
    have hfill : surviving (jobs ++ [.handle ⟨id, .fillBuffer⟩ 0]) slots.length =
        surviving jobs slots.length + 1 := surviving_append ..
    rw [hrefill, Option.getD_some] at hload
    rw [hsome]
    refine ⟨h.window, h.peak_append ?_, ?_, ?_, fun _ => hphase⟩
    · show surviving jobs slots.length + 1 ≤ n
      omega
    · show surviving (jobs ++ [.handle ⟨id, .fillBuffer⟩ 0]) slots.length + left ≤ n
      omega
    · intro hwaiting
      exact absurd (hphase.symm.trans hwaiting) Phase.noConfusion
  | started rest hrefill htasks hphase =>
    have hnone : (Client.ask true
        { c with tasks := rest, phase := .waitingForServerStart }).refill = none := hrefill
    have hstart : surviving (jobs ++ [.handle ⟨id, .start⟩ 0]) slots.length = 0 :=
      surviving_append ..
    refine ⟨h.window, h.peak_append (Nat.zero_le n), ?_, ?_, ?_⟩
    · rw [hnone]
      exact Nat.le_trans (Nat.le_of_eq hstart) (Nat.zero_le n)
    · intro _
      rw [hnone]
      exact hstart
    · intro hsome
      rw [hnone] at hsome
      exact absurd hsome Bool.false_ne_true
  | stopped rest hrefill htasks =>
    rw [List.map_nil, List.append_nil]
    exact h.of_none rfl hrefill Phase.noConfusion
  | refilled task rest hrefill htasks hfills hidle =>
    rw [List.map_nil, List.append_nil]
    refine ⟨h.window, h.peak, ?_, ?_, fun _ => rfl⟩
    · rw [hbegin hrefill rfl, Nat.zero_add]
      exact Nat.le_of_eq h.window
    · intro hwaiting
      exact absurd hwaiting Phase.noConfusion
  | lost rest hrefill htasks hphase =>
    rw [List.map_nil, List.append_nil]
    exact h.of_none rfl hrefill Phase.noConfusion
  | idle task rest hrefill htasks hidle =>
    rw [List.map_nil, List.append_nil]
    exact h.of_same rfl rfl rfl

/-- A move keeps the window in bounds, if a refill begins with nothing under way. -/
theorem move (h : Capacity n c slots jobs) {changed : Client} {slots' : List (Slot Nat)}
    {jobs' : List (ServerJob Nat ω)} {served : List (Serving ω)}
    (hmove : Direct.Move c slots jobs changed slots' jobs' served)
    (hbegin : c.refill = none → changed.refill.isSome → surviving jobs slots.length = 0) :
    Capacity n changed slots' jobs' := by
  cases hmove with
  | still => exact h
  | told task htask => exact h.of_same rfl rfl rfl
  | posted endpoint observer =>
    have hsame : surviving (jobs ++ [.push endpoint observer]) slots.length =
        surviving jobs slots.length := surviving_append ..
    refine ⟨h.window, h.peak_append ?_, ?_, ?_, h.filling⟩
    · exact Nat.le_trans (Nat.le_add_right _ _) h.load
    · rw [hsame]
      exact h.load
    · rw [hsame]
      exact h.waiting
  | turned id _ sent events hturn => exact h.turned hturn hbegin
  | looked reply rest hreplies => exact h.of_same rfl rfl rfl
  | restarted id rest hjobs =>
    exact h.serve rfl rfl rfl hjobs fun _ => Nat.le_refl _
  | kept id rest hjobs =>
    exact h.serve rfl rfl rfl hjobs fun later =>
      surviving_mono later (Window.length_keep_le slots ⟨id, .fillBuffer⟩ 0)
  | underflow endpoint observer rest hjobs hslots =>
    exact h.serve rfl rfl rfl hjobs fun later => surviving_mono later (Nat.zero_le _)
  | pair endpoint observer rest first last hjobs hslots =>
    exact h.serve rfl rfl rfl hjobs fun later => surviving_mono later (Nat.zero_le _)
  | pushed endpoint observer rest first others hjobs hslots hlength =>
    refine h.serve rfl rfl rfl hjobs fun later => surviving_mono later ?_
    rw [hslots]
    exact Nat.le_succ _

/-- The window holds no more slots than a refill brings. -/
theorem length_le (h : Capacity n c slots jobs) : slots.length ≤ n := h.peak [] List.nil_prefix

end Capacity

/-- Nothing asks a client to fill its window again. -/
def Unasked (c : Client) : Prop := .needBuffer ∉ c.tasks ∧ .needBuffer ∉ c.replies

/-- A client that nothing has asked begins a refill with nothing under way. -/
theorem Capacity.begin_of_unasked {n : Nat} {c : Client} {slots : List (Slot Nat)}
    {jobs : List (ServerJob Nat ω)} (h : Capacity n c slots jobs) (hunasked : Unasked c)
    {changed : Client} {slots' : List (Slot Nat)} {jobs' : List (ServerJob Nat ω)}
    {served : List (Serving ω)} (hmove : Direct.Move c slots jobs changed slots' jobs' served)
    (hbefore : c.refill = none) (hafter : changed.refill.isSome) :
    surviving jobs slots.length = 0 := by
  have hsame (hrefill : changed.refill = c.refill) : surviving jobs slots.length = 0 := by
    rw [hrefill, hbefore] at hafter
    exact absurd hafter Bool.false_ne_true
  cases hmove with
  | still | told | posted | looked | restarted | kept | underflow | pair | pushed => exact hsame rfl
  | turned id _ sent events hturn =>
    cases hturn with
    | filled hrefill => exact absurd (hrefill.symm.trans hbefore) (Option.some_ne_none _)
    | filling left hrefill => exact absurd (hrefill.symm.trans hbefore) (Option.some_ne_none _)
    | started rest => exact hsame (Client.refill_ask true _)
    | stopped | lost | idle => exact hsame rfl
    | refilled task rest hrefill htasks hfills hidle =>
      rcases hfills with rfl | rfl
      · have hwaiting := h.waiting (Decidable.not_not.mp hidle)
        omega
      · have hasked : .needBuffer ∈ c.tasks := by
          rw [htasks]
          exact List.mem_cons_self
        exact absurd hasked hunasked.1

/-- A reply that asks for nothing leaves a client unasked. -/
theorem Unasked.receive {c : Client} (h : Unasked c) {reply : Reply}
    (hreply : reply ≠ .needBuffer) : Unasked (c.receive (.reply reply)) := by
  refine ⟨h.1, ?_⟩
  intro hmem
  rcases List.mem_append.mp hmem with hold | hnew
  · exact h.2 hold
  · exact hreply (List.mem_singleton.mp hnew).symm

/-- Only a push that finds two slots asks a client to fill its window again. -/
theorem Unasked.move {c : Client} {slots : List (Slot Nat)} {jobs : List (ServerJob Nat ω)}
    (h : Unasked c) {changed : Client} {slots' : List (Slot Nat)} {jobs' : List (ServerJob Nat ω)}
    {served : List (Serving ω)} (hmove : Direct.Move c slots jobs changed slots' jobs' served)
    (hlength : slots.length ≠ 2) : Unasked changed := by
  cases hmove with
  | still | posted | kept | underflow => exact h
  | told task htask =>
    refine ⟨?_, h.2⟩
    intro hmem
    rcases List.mem_append.mp hmem with hold | hnew
    · exact h.1 hold
    · obtain rfl := List.mem_singleton.mp hnew
      rcases htask with hstart | hstop
      · exact absurd hstart Task.noConfusion
      · exact absurd hstop Task.noConfusion
  | turned id _ sent events hturn =>
    refine ⟨?_, ?_⟩
    · intro hmem
      exact h.1 (hturn.mem_tasks hmem)
    · rw [hturn.replies_eq]
      exact h.2
  | looked reply rest hrest =>
    obtain ⟨htasks, hreplies⟩ := h
    rw [hrest] at hreplies
    refine ⟨?_, ?_⟩
    · intro hmem
      rcases List.mem_append.mp hmem with hold | hnew
      · exact htasks hold
      · cases reply with
        | needBuffer => exact hreplies List.mem_cons_self
        | serverStarted => exact absurd (List.mem_singleton.mp hnew) Task.noConfusion
        | reconnected => exact absurd hnew List.not_mem_nil
    · intro hmem
      exact hreplies (List.mem_cons_of_mem _ hmem)
  | restarted id rest hjobs => exact h.receive Reply.noConfusion
  | pair endpoint observer rest first last hjobs hslots =>
    rw [hslots] at hlength
    exact absurd rfl hlength
  | pushed endpoint observer rest first others hjobs hslots => exact h.receive Reply.noConfusion

/-- Whether a client is filling its window. -/
def refilling (links : List Link) : Bool := links.any (·.client.refill.isSome)

/-- How many slots there will be once the jobs that wait have been run and the refills at hand have
sent their commands, if no push takes any. -/
def underWay (links : List Link) (slots : Nat) (jobs : List (ServerJob Nat ω)) : Nat :=
  surviving jobs slots + (links.map (·.client.refill.getD 0)).sum

/-- What is under way when a step begins a refill. -/
def System.beginning (s : System ω) (x : SystemStep ω) : List Nat :=
  if !refilling s.links && refilling (s.step x).1.links then
    [underWay s.links s.server.buffered s.server.jobs]
  else []

/-- Every refill of a run begins with nothing in the window and nothing under way. -/
def System.Separate (s : System ω) (steps : List (SystemStep ω)) : Prop :=
  ∀ found ∈ watch System.step System.beginning s steps, found = 0

/-- What is under way when a step begins a refill. -/
def Direct.beginning (d : Direct ω) (x : SystemStep ω) : List Nat :=
  if !refilling d.links && refilling (d.step x).1.links then
    [underWay d.links d.slots.length d.jobs]
  else []

namespace System

theorem separate_direct {s : System ω} (h : s.server.Running) (steps : List (SystemStep ω)) :
    s.Separate steps ↔ ∀ found ∈ watch Direct.step Direct.beginning s.direct steps, found = 0 := by
  have hlook (s : System ω) (h : s.server.Running) (x : SystemStep ω) :
      s.beginning x = s.direct.beginning x := by
    rw [Direct.beginning, ← (step_direct h x).2]
    rfl
  rw [Separate, watch_direct hlook h]

theorem separate_cons (s : System ω) (x : SystemStep ω) (rest : List (SystemStep ω)) :
    s.Separate (x :: rest) ↔ (∀ found ∈ s.beginning x, found = 0) ∧ (s.step x).1.Separate rest :=
  List.forall_mem_append

/-- With one client, a refill begins with nothing under way just if nothing survives. -/
theorem beginning_solo {s : System ω} {c changed : Client} {x : SystemStep ω}
    (hsolo : s.direct.Solo c) (hchanged : (s.step x).1.direct.Solo changed) :
    (∀ found ∈ s.beginning x, found = 0) ↔ (c.refill = none → changed.refill.isSome →
      surviving s.direct.jobs s.direct.slots.length = 0) := by
  have hbefore : refilling s.links = c.refill.isSome := by
    rw [refilling, ← direct_links, hsolo.links, List.any_cons, List.any_nil, Bool.or_false]
  have hafter : refilling (s.step x).1.links = changed.refill.isSome := by
    rw [refilling, ← direct_links, hchanged.links, List.any_cons, List.any_nil, Bool.or_false]
  have hload : underWay s.links s.server.buffered s.server.jobs =
      surviving s.direct.jobs s.direct.slots.length + c.refill.getD 0 := by
    rw [underWay, ← direct_links, hsolo.links]
    rfl
  rw [beginning, hbefore, hafter, hload]
  cases c.refill with
  | some left =>
    constructor
    · intro _ hnone
      exact absurd hnone (Option.some_ne_none left)
    · intro _ found hfound
      exact absurd hfound List.not_mem_nil
  | none =>
    cases changed.refill with
    | none =>
      constructor
      · intro _ _ hsome
        exact absurd hsome Bool.false_ne_true
      · intro _ found hfound
        exact absurd hfound List.not_mem_nil
    | some left =>
      constructor
      · intro hall _ _
        exact hall _ List.mem_cons_self
      · intro hzero found hfound
        rw [List.mem_singleton.mp hfound, hzero rfl rfl]
        rfl

/-- The window stays in bounds while every refill begins with nothing under way. -/
theorem capacity_run {n : Nat} {s : System ω} {c : Client} (hrunning : s.server.Running)
    (hsolo : s.direct.Solo c) (h : Capacity n c s.direct.slots s.direct.jobs)
    {steps : List (SystemStep ω)} (hsteps : ∀ x ∈ steps, x.Steady) (hseparate : s.Separate steps) :
    (s.run steps).1.server.buffered ≤ n := by
  induction steps generalizing s c with
  | nil => exact h.length_le
  | cons x rest ih =>
    obtain ⟨hx, hrest⟩ := List.forall_mem_cons.mp hsteps
    obtain ⟨hbegin, hlater⟩ := (separate_cons s x rest).mp hseparate
    obtain ⟨changed, hnext, hchanged, hmove⟩ := move hrunning hsolo hx
    have hmoved := h.move hmove ((beginning_solo hsolo hchanged).mp hbegin)
    exact ih hnext hchanged hmoved hrest hlater

/-- A client of a window of one slot or none never begins a refill with something under way. -/
theorem separate_of_unasked {n : Nat} (hn : n ≤ 1) {s : System ω} {c : Client}
    (hrunning : s.server.Running) (hsolo : s.direct.Solo c)
    (h : Capacity n c s.direct.slots s.direct.jobs) (hunasked : Unasked c)
    {steps : List (SystemStep ω)} (hsteps : ∀ x ∈ steps, x.Steady) : s.Separate steps := by
  induction steps generalizing s c with
  | nil => exact fun _ hfound => absurd hfound List.not_mem_nil
  | cons x rest ih =>
    obtain ⟨hx, hrest⟩ := List.forall_mem_cons.mp hsteps
    obtain ⟨changed, hnext, hchanged, hmove⟩ := move hrunning hsolo hx
    have hbegin := h.begin_of_unasked hunasked hmove
    have hlength : s.direct.slots.length ≠ 2 := by
      have hbound := h.length_le
      omega
    apply (separate_cons s x rest).mpr
    constructor
    · exact (beginning_solo hsolo hchanged).mpr hbegin
    · exact ih hnext hchanged (h.move hmove hbegin) (hunasked.move hmove hlength) hrest

theorem capacity_fresh (n : Nat) : Capacity n (.fresh n) (fresh [n] : System ω).direct.slots
    (fresh [n] : System ω).direct.jobs := by
  refine ⟨rfl, ?_, Nat.zero_le n, ?_, ?_⟩
  · intro earlier hearlier
    rw [List.prefix_nil.mp hearlier]
    exact Nat.zero_le n
  · intro hwaiting
    exact absurd hwaiting Phase.noConfusion
  · intro hsome
    exact absurd hsome Bool.false_ne_true

end System

end PacketTunnel.Ipc
