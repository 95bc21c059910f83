import PacketTunnel.Proofs.ClientDeed

/-!
# The sessions of a client

A session begins when a stopped client begins a task to start, and lasts until the client is stopped
again. The client asks the server to start once, and otherwise sends commands that fill the window.
If it is told to stop, it tells nothing of it; if the server is lost, it tells so once, however many
answers and refusals say it. Between sessions the client does nothing but tell of reconnects,
whatever comes in. In every phase, replies are looked at in the order in which they came.
-/

namespace PacketTunnel.Ipc

/-- Whether a step is one of the reply queue. -/
def ExchangeStep.isReply {τ : Type} : ExchangeStep τ → Bool
  | .reply => true
  | _ => false

/-- Whether the client is stopped by a step that begins no task to stop: the server is lost. -/
def Taken.loses {τ : Type} (x : Taken τ) : Bool :=
  x.after.client.phase = .stopped ∧ x.begins ≠ some .stop

/-- A session, or the first part of one: it is opened, and the client is not stopped until its last
step at the earliest. -/
structure IsSession {τ : Type} (s : List (Taken τ)) : Prop where
  /-- The first step opens it. -/
  opened : ∃ first rest, s = first :: rest ∧ first.Opens
  /-- The client is not stopped before the last step. -/
  lasting : ∀ x ∈ s.dropLast, x.after.client.phase ≠ .stopped

/-- What is sent and told in a session. -/
structure Concluded {τ : Type} (s : List (Taken τ)) : Prop where
  /-- The server is asked to start, once and first of all; then only the window is filled. -/
  asks : ∃ id fills, s.flatMap Taken.sent = ⟨id, .start⟩ :: fills ∧
    ∀ command ∈ fills, command.action = .fillBuffer
  /-- That the server is gone is told once if the last step loses it. If the last step begins a task
  to stop, or does not stop the client, it is not told. -/
  gone : ∀ earlier last, s = earlier ++ [last] →
    (s.flatMap Taken.events).count .serverGone = if last.loses then 1 else 0

/-- The endpoints of the replies on record that came in. -/
def heardOf {τ : Type} (transport : Transport τ) (record : List (Taken τ)) : List String :=
  (record.flatMap (Taken.heard transport)).filterMap Reply.endpoint?

/-- The endpoints that the client told of. -/
def toldIn {τ : Type} (record : List (Taken τ)) : List String := record.flatMap Taken.told

/-- In a session, a step tells that the server is gone exactly if it loses it. -/
theorem Taken.Conduct.count_gone {τ : Type} {transport : Transport τ} {x : Taken τ}
    (h : x.Conduct transport) (hx : x.Opens ∨ x.before.client.phase ≠ .stopped) :
    x.events.count .serverGone = if x.loses then 1 else 0 := by
  rcases hx with hopens | hbefore
  · have hstart : x.begins ≠ some .stop := by
      rw [hopens.1]
      exact fun h => by cases h
    obtain ⟨_, -, -, ⟨hphase, hevents⟩ | ⟨hphase, hevents⟩⟩ := h.opens hopens
    all_goals simp [Taken.loses, hphase, hstart, hevents]
  · by_cases hafter : x.after.client.phase = .stopped
    · rw [h.ends hbefore hafter]
      by_cases hstop : x.begins = some .stop
      all_goals simp [Taken.loses, hafter, hstop]
    · rw [List.count_eq_zero_of_not_mem (h.goesOn hbefore hafter)]
      simp [Taken.loses, hafter]

/-- What waits after a step or was told of in it is what waited or came in. -/
theorem Taken.Answers.told_append {τ : Type} {transport : Transport τ} {x : Taken τ}
    (h : x.Answers transport) :
    x.told ++ x.after.client.replies.filterMap Reply.endpoint? =
      x.before.client.replies.filterMap Reply.endpoint? ++
        (x.heard transport).filterMap Reply.endpoint? := by
  by_cases hx : x.step = .reply
  · obtain ⟨hheard, ⟨hbefore, hafter, htold⟩ | ⟨reply, hbefore, htold⟩⟩ := h.looks hx
    · rw [hheard, htold, hbefore, hafter]
      rfl
    · rw [hheard, htold, hbefore, List.filterMap_nil, List.append_nil, List.filterMap_cons]
      cases reply <;> rfl
  · obtain ⟨hreplies, htold⟩ := h.waits hx
    rw [htold, hreplies, List.filterMap_append]
    rfl

namespace Exchange

variable {τ : Type} {transport : Transport τ}

/-- The steps of a run, for the record. -/
def history (transport : Transport τ) (e : Exchange τ) : List (ExchangeStep τ) → List (Taken τ)
  | [] => []
  | x :: rest => e.taken transport x :: (e.step transport x).1.history transport rest

/-- Behind its first steps, a record is that of the other steps from where the first ones led. -/
theorem drop_history (transport : Transport τ) (e : Exchange τ) (steps : List (ExchangeStep τ))
    (n : Nat) : (e.history transport steps).drop n =
      (e.run transport (steps.take n)).1.history transport (steps.drop n) := by
  induction n generalizing e steps with
  | zero => rfl
  | succ n ih =>
    cases steps with
    | nil => rfl
    | cons x rest => exact ih (e.step transport x).1 rest

theorem fitting_fresh (window : Nat) (wire : τ) : (fresh window wire).Fitting :=
  ⟨fun h => (by cases h), fun h => (by cases h)⟩

theorem Fitting.run {e : Exchange τ} (h : e.Fitting) (transport : Transport τ)
    (steps : List (ExchangeStep τ)) : (e.run transport steps).1.Fitting := by
  induction steps generalizing e with
  | nil => exact h
  | cons x rest ih => exact ih (Taken.Conduct.of_step h transport x).fitting

/-- A part of a record is the record of the steps from where those before led. -/
theorem Fitting.exists_history {e : Exchange τ} (h : e.Fitting) {steps : List (ExchangeStep τ)}
    {before rest : List (Taken τ)} (hrecord : e.history transport steps = before ++ rest) :
    ∃ now later, now.Fitting ∧ rest = history transport now later := by
  refine ⟨_, steps.drop before.length, h.run transport (steps.take before.length), ?_⟩
  rw [← drop_history, hrecord, List.drop_left]

/-- Every step on record follows the conduct of its phase. -/
theorem Fitting.conduct {e : Exchange τ} (h : e.Fitting) {steps : List (ExchangeStep τ)}
    {x : Taken τ} (hx : x ∈ e.history transport steps) : x.Conduct transport := by
  obtain ⟨before, after, hrecord⟩ := List.append_of_mem hx
  obtain ⟨now, later, hnow, hrest⟩ := h.exists_history hrecord
  cases later with
  | nil => cases hrest
  | cons y later =>
    obtain ⟨rfl, -⟩ := List.cons.inj hrest
    exact Taken.Conduct.of_step hnow transport y

/-- A stopped client that begins no task to start is inert all the while. -/
theorem Fitting.inert {e : Exchange τ} (h : e.Fitting) {steps : List (ExchangeStep τ)}
    {during after : List (Taken τ)} (hrecord : e.history transport steps = during ++ after)
    (hstopped : e.client.phase = .stopped) (hstart : ∀ x ∈ during, x.begins ≠ some .start) :
    ∀ x ∈ during, x.Inert := by
  induction during generalizing e steps with
  | nil => exact fun x hx => absurd hx List.not_mem_nil
  | cons first during ih =>
    cases steps with
    | nil => cases hrecord
    | cons y steps =>
      obtain ⟨rfl, hrest⟩ := List.cons.inj hrecord
      obtain ⟨hfirst, hduring⟩ := List.forall_mem_cons.mp hstart
      have hconduct := Taken.Conduct.of_step h transport y
      have hinert := hconduct.inert hstopped hfirst
      exact List.forall_mem_cons.mpr ⟨hinert, ih hconduct.fitting hrest hinert.stays hduring⟩

/-- As long as the client is not stopped, every step finds it so. -/
theorem Fitting.lasting {e : Exchange τ} (h : e.Fitting) {steps : List (ExchangeStep τ)}
    {during after : List (Taken τ)} (hrecord : e.history transport steps = during ++ after)
    (hphase : e.client.phase ≠ .stopped)
    (hlasting : ∀ x ∈ during.dropLast, x.after.client.phase ≠ .stopped) :
    ∀ x ∈ during, x.before.client.phase ≠ .stopped := by
  induction during generalizing e steps with
  | nil => exact fun x hx => absurd hx List.not_mem_nil
  | cons first during ih =>
    cases steps with
    | nil => cases hrecord
    | cons y steps =>
      obtain ⟨rfl, hrest⟩ := List.cons.inj hrecord
      refine List.forall_mem_cons.mpr ⟨hphase, ?_⟩
      cases during with
      | nil => exact fun x hx => absurd hx List.not_mem_nil
      | cons second during =>
        rw [List.dropLast_cons_cons] at hlasting
        obtain ⟨hfirst, hduring⟩ := List.forall_mem_cons.mp hlasting
        exact ih (Taken.Conduct.of_step h transport y).fitting hrest hfirst hduring

/-- Every session on record is concluded as it should be. -/
theorem Fitting.concluded {e : Exchange τ} (h : e.Fitting) {steps : List (ExchangeStep τ)}
    {s after : List (Taken τ)} (hrecord : e.history transport steps = s ++ after)
    (hs : IsSession s) : Concluded s := by
  have hconduct (x : Taken τ) (hx : x ∈ s) : x.Conduct transport :=
    h.conduct (hrecord ▸ List.mem_append_left after hx)
  obtain ⟨first, rest, rfl, hopens⟩ := hs.opened
  obtain ⟨id, -, hsent, -⟩ := (hconduct first List.mem_cons_self).opens hopens
  -- Behind the first step the client is not stopped until the end.
  have hbusy : ∀ x ∈ rest, x.before.client.phase ≠ .stopped := by
    cases rest with
    | nil => exact fun x hx => absurd hx List.not_mem_nil
    | cons second rest =>
      have hlasting := hs.lasting
      rw [List.dropLast_cons_cons] at hlasting
      obtain ⟨hfirst, hrest⟩ := List.forall_mem_cons.mp hlasting
      cases steps with
      | nil => cases hrecord
      | cons y steps =>
        obtain ⟨rfl, hbehind⟩ := List.cons.inj hrecord
        exact (Taken.Conduct.of_step h transport y).fitting.lasting hbehind hfirst hrest
  refine ⟨⟨id, rest.flatMap Taken.sent, ?_, ?_⟩, fun earlier last heq => ?_⟩
  · rw [List.flatMap_cons, hsent]
    rfl
  · intro command hcommand
    obtain ⟨x, hx, hmem⟩ := List.mem_flatMap.mp hcommand
    exact (hconduct x (List.mem_cons_of_mem _ hx)).fills (hbusy x hx) command hmem
  · have hcount (x : Taken τ) (hx : x ∈ first :: rest) :
        x.events.count .serverGone = if x.loses then 1 else 0 := by
      refine (hconduct x hx).count_gone ?_
      rcases List.mem_cons.mp hx with rfl | hx
      · exact .inl hopens
      · exact .inr (hbusy x hx)
    have hlasting := hs.lasting
    rw [heq, List.dropLast_concat] at hlasting
    rw [heq] at hcount ⊢
    have hearlier : (earlier.flatMap Taken.events).count .serverGone = 0 := by
      rw [List.count_eq_zero]
      intro hmem
      obtain ⟨x, hx, hgone⟩ := List.mem_flatMap.mp hmem
      have hloses : x.loses = false := by simp [Taken.loses, hlasting x hx]
      have hzero := hcount x (List.mem_append_left _ hx)
      rw [hloses, if_neg Bool.false_ne_true, List.count_eq_zero] at hzero
      exact hzero hgone
    rw [List.flatMap_append, List.count_append, hearlier, Nat.zero_add, List.flatMap_singleton]
    exact hcount last (List.mem_append_right _ (List.mem_singleton_self _))

theorem heardOf_cons (transport : Transport τ) (x : Taken τ) (record : List (Taken τ)) :
    heardOf transport (x :: record) =
      (x.heard transport).filterMap Reply.endpoint? ++ heardOf transport record := by
  rw [heardOf, List.flatMap_cons, List.filterMap_append]
  rfl

/-- Whatever came in was told of or waits, in the order in which it came. -/
theorem Fitting.told_append {e : Exchange τ} (h : e.Fitting) (steps : List (ExchangeStep τ)) :
    toldIn (e.history transport steps) ++
        (e.run transport steps).1.client.replies.filterMap Reply.endpoint? =
      e.client.replies.filterMap Reply.endpoint? ++
        heardOf transport (e.history transport steps) := by
  induction steps generalizing e with
  | nil => exact (List.append_nil _).symm
  | cons x rest ih =>
    have hfirst := (Taken.Answers.of_step h transport x).told_append
    have hrest := ih (Taken.Conduct.of_step h transport x).fitting
    rw [history, heardOf_cons, run_cons, toldIn, List.flatMap_cons, List.append_assoc]
    refine (congrArg _ hrest).trans ?_
    rw [← List.append_assoc, hfirst, List.append_assoc]
    rfl

/-- What waits is told of as soon as the reply queue has taken as many steps, in its order. -/
theorem Fitting.prefix_told {e : Exchange τ} (h : e.Fitting) {steps : List (ExchangeStep τ)}
    {replies : List Reply} (hreplies : replies <+: e.client.replies)
    (hsteps : replies.length ≤ steps.countP ExchangeStep.isReply) :
    replies.filterMap Reply.endpoint? <+: toldIn (e.history transport steps) := by
  induction steps generalizing e replies with
  | nil =>
    obtain rfl := List.eq_nil_of_length_eq_zero (Nat.le_zero.mp hsteps)
    exact List.nil_prefix
  | cons x rest ih =>
    have hnext := (Taken.Conduct.of_step h transport x).fitting
    have hanswers := Taken.Answers.of_step h transport x
    rw [history, toldIn, List.flatMap_cons, ← toldIn]
    by_cases hx : x = .reply
    · subst hx
      rw [List.countP_cons_of_pos rfl] at hsteps
      cases replies with
      | nil => exact List.nil_prefix
      | cons first replies =>
        obtain ⟨-, ⟨hbefore, -⟩ | ⟨reply, hbefore, htold⟩⟩ := hanswers.looks rfl
        · rw [show e.client.replies = [] from hbefore] at hreplies
          exact absurd (List.prefix_nil.mp hreplies) (List.cons_ne_nil _ _)
        · rw [show e.client.replies = _ from hbefore, List.cons_prefix_cons] at hreplies
          obtain ⟨rfl, hreplies⟩ := hreplies
          have hfirst : (first :: replies).filterMap Reply.endpoint? =
              first.endpoint?.toList ++ replies.filterMap Reply.endpoint? := by
            cases first <;> rfl
          rw [htold, hfirst, List.prefix_append_right_inj]
          exact ih hnext hreplies (Nat.le_of_succ_le_succ hsteps)
    · obtain ⟨hafter, htold⟩ := hanswers.waits hx
      have hother : x.isReply = false := by
        cases x with
        | reply => exact absurd rfl hx
        | _ => rfl
      rw [List.countP_cons_of_neg (by rw [hother]; exact Bool.false_ne_true)] at hsteps
      rw [htold, List.nil_append]
      refine ih hnext (hreplies.trans ?_) hsteps
      exact ⟨_, hafter.symm⟩

/-- What is true of a client with a record of steps behind it. -/
structure Conducted (transport : Transport τ) (record : List (Taken τ)) (e : Exchange τ) :
    Prop where
  /-- While no refill is at hand the phase is not that of filling. -/
  between : ∀ x ∈ record, x.after.client.refill = none →
    x.after.client.phase ≠ .fillingServerBuffer
  /-- From a step that finds the client stopped until it begins a task to start, the client stays
  stopped, sends nothing and tells of nothing but reconnects. -/
  inert : ∀ before during after, record = before ++ during ++ after →
    (∀ first ∈ during.head?, first.before.client.phase = .stopped) →
    (∀ x ∈ during, x.begins ≠ some .start) → ∀ x ∈ during, x.Inert
  /-- A stopped client that begins a task to start asks the server to start, once. -/
  starts : ∀ x ∈ record, x.begins = some .start → x.before.client.phase = .stopped →
    ∃ id, x.step = .task id ∧ x.sent = [⟨id, .start⟩]
  /-- Otherwise the task is taken off the queue, and that is all. -/
  ignores : ∀ x ∈ record, x.begins = some .start → x.before.client.phase ≠ .stopped →
    x.after = x.before.enter x.before.client.phase x.before.client.tasks.tail ∧ x.events = []
  /-- That the server is gone is told once in a session that ends because it is, and not in one that
  ends because the client is told to stop, nor before the end. -/
  sessions : ∀ before s after, record = before ++ s ++ after → IsSession s → Concluded s
  /-- Of the reconnects that came in, the client told of the first ones, each once and in the order
  in which they came; the others wait. -/
  told : toldIn record ++ e.client.replies.filterMap Reply.endpoint? = heardOf transport record
  /-- It has told of all of them once the reply queue took enough steps, whatever else happens. -/
  prompt : ∀ more, e.client.replies.length ≤ more.countP ExchangeStep.isReply →
    heardOf transport record <+: toldIn (record ++ e.history transport more)

/-- Whatever the transport does and in whatever order, a client that is stopped is inert, and every
session ends once. -/
theorem conducted_run (transport : Transport τ) (window : Nat) (wire : τ)
    (steps : List (ExchangeStep τ)) :
    Conducted transport ((fresh window wire).history transport steps)
      ((fresh window wire).run transport steps).1 := by
  have hfitting := fitting_fresh window wire
  have htold : _ = heardOf transport ((fresh window wire).history transport steps) :=
    hfitting.told_append steps
  refine ⟨fun x hx hrefill hphase => ?_, ?_, ?_, ?_, ?_, htold, fun more hmore => ?_⟩
  · have hfilling := (hfitting.conduct hx).fitting.mpr hphase
    rw [hrefill] at hfilling
    exact absurd hfilling Bool.false_ne_true
  · intro before during after hrecord hstopped hstart
    rw [List.append_assoc] at hrecord
    obtain ⟨now, later, hnow, hlater⟩ := hfitting.exists_history hrecord
    cases during with
    | nil => exact fun x hx => absurd hx List.not_mem_nil
    | cons first during =>
      cases later with
      | nil => cases hlater
      | cons y later =>
        have hphase : now.client.phase = .stopped := by
          obtain ⟨rfl, -⟩ := List.cons.inj hlater
          exact hstopped _ rfl
        exact hnow.inert hlater.symm hphase hstart
  · intro x hx hbegins hphase
    obtain ⟨id, hstep, hsent, -⟩ := (hfitting.conduct hx).opens ⟨hbegins, hphase⟩
    exact ⟨id, hstep, hsent⟩
  · exact fun x hx => (hfitting.conduct hx).idle
  · intro before s after hrecord hs
    rw [List.append_assoc] at hrecord
    obtain ⟨now, later, hnow, hlater⟩ := hfitting.exists_history hrecord
    exact hnow.concluded hlater.symm hs
  · rw [toldIn, List.flatMap_append, ← htold]
    refine (List.prefix_append_right_inj _).mpr ?_
    exact (hfitting.run transport steps).prefix_told (List.prefix_refl _) hmore

/-- A transport that refuses the third command. -/
def brittle : Transport Nat := fun n _ => (n + 1, ⟨none, n = 2⟩)

/-- A session that is lost in the middle of a refill, one that is stopped, and answers to commands
of both afterwards. -/
def breaking : List (ExchangeStep Nat) :=
  [.start, .task (.numbered 0), .answer 0 (.reply .serverStarted), .reply, .task (.numbered 1),
    .task (.numbered 2), .task (.numbered 3), .start, .task (.numbered 4), .stop,
    .task (.numbered 5), .answer 1 .noData, .task (.numbered 6),
    .answer 3 (.reply (.reconnected "a")), .reply]

/-- The refusal is told once, the stop is not, and of the answers only the reconnect is. -/
theorem conducted_breaking :
    toldIn ((fresh 2 0).history brittle breaking) = ["a"] ∧
    ((fresh 2 0).run brittle breaking).2 = [.serverGone, .reconnected "a"] ∧
    ((fresh 2 0).run brittle breaking).1.commands.map (·.action) =
      [.start, .fillBuffer, .fillBuffer, .start] ∧
    Conducted brittle ((fresh 2 0).history brittle breaking)
      ((fresh 2 0).run brittle breaking).1 :=
  ⟨by decide, by decide, by decide, conducted_run brittle 2 0 breaking⟩

end Exchange

end PacketTunnel.Ipc
