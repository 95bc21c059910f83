import PacketTunnel.Proofs.EpochIsolation

/-!
# Restarts of a bridge

A start stops the engine that runs, and a stop where no engine runs does nothing. So stops that come
before a start, as they do when a configuration is replaced, make no difference, and neither do
further stops after a stop. What is left of the bridge is the same but for the moment at which its
timer is due: a start keeps the timer of the engine that it replaces, and a stop gives the timer up.
-/

namespace PacketTunnel.Bridge

open Session

variable {φ σ : Type}

namespace Turn

theorem andThen_assoc (t : Turn φ σ) (next last : Actor φ σ → Turn φ σ) :
    (t.andThen next).andThen last = t.andThen fun a => (next a).andThen last := by
  rcases hbroken : t.broken with _ | _
  · rcases hnext : (next t.actor).broken with _ | _
    · simp only [andThen, hbroken, hnext, Bool.false_eq_true, ite_false, List.append_assoc]
    · simp only [andThen, hbroken, hnext, Bool.false_eq_true, ite_false, ite_true]
  · simp only [andThen, hbroken, ite_true]

/-- To go on and do nothing is not to go on. -/
theorem andThen_done {t : Turn φ σ} {next : Actor φ σ → Turn φ σ}
    (h : t.broken = false → next t.actor = .done t.actor []) : t.andThen next = t := by
  obtain ⟨actor, effects, broken⟩ := t
  cases broken with
  | false => simp only [andThen, h rfl, done, Bool.false_eq_true, ite_false, List.append_nil]
  | true => rfl

end Turn

namespace Actor

/-- Where no session is live, to cancel every session changes nothing. -/
theorem cleared_of_entries_eq_nil {a : Actor φ σ} (h : a.table.entries = []) : a.cleared = a := by
  rw [cleared, Table.cancelAll_of_entries_eq_nil h]

theorem cancels_of_entries_eq_nil {a : Actor φ σ} (h : a.table.entries = []) : a.cancels = [] := by
  rw [cancels, Table.cancelAll_of_entries_eq_nil h, List.map_nil]

/-- Sessions that were cancelled are not there to be cancelled again. -/
theorem cleared_stop (k : Kind φ σ) (a : Actor φ σ) : (a.stop k).actor.cleared = (a.stop k).actor ∧
    (a.stop k).actor.cancels = [] := by
  have htable : (a.stop k).actor.table = (a.table.cancelAll (κ := WriteTag)).1 := by
    rcases hengine : a.engine with _ | live
    · rw [stop_idle k hengine]
      rfl
    · obtain ⟨output, -, ⟨-, hactor⟩ | ⟨-, hactor⟩⟩ := stop_live k hengine <;> rw [hactor] <;> rfl
  have hnone : (a.stop k).actor.table.entries = [] := by rw [htable, Table.entries_cancelAll]
  exact ⟨cleared_of_entries_eq_nil hnone, cancels_of_entries_eq_nil hnone⟩

/-- A stop after a stop does nothing. -/
theorem stop_stop (k : Kind φ σ) (a : Actor φ σ) : (a.stop k).andThen (stop k) = a.stop k := by
  obtain ⟨hcleared, hcancels⟩ := cleared_stop k a
  refine Turn.andThen_done fun _ => ?_
  rw [stop_idle k (engine_stop k a), hcleared, hcancels]

/-- A start after a stop does what a start does at once. -/
theorem stop_start (k : Kind φ σ) (config : Config) (a : Actor φ σ) :
    (a.stop k).andThen (start k config) = a.start k config := by
  -- The start begins with a stop of its own, which comes second here.
  have hstart : start k config = fun b => (b.stop k).andThen (setUp k config) := rfl
  rw [hstart, ← Turn.andThen_assoc, stop_stop]

end Actor

namespace Loop

/-- Two bridges that differ at most in when their timers are due. -/
structure Alike (l m : Loop φ σ) : Prop where
  /-- They are the same apart from their timers: the workshop and the attempts made in it, the
  engine, the epoch, the counters and the sessions. -/
  actor : l.actor = m.actor
  /-- They give their timers the same period, -/
  period : l.period = m.period
  /-- and if one of them has a timer then so has the other, with the same period. -/
  timer : l.timer.map (·.period) = m.timer.map (·.period)

/-- Two outcomes that say that the same was done, and that bridges are left that are alike, or
none. -/
structure Agree (x y : List Effect × Option (Loop φ σ)) : Prop where
  /-- The same was done, in the same order: what was called, cancelled and answered. -/
  effects : x.1 = y.1
  /-- What is left is alike. -/
  last : Option.Rel Alike x.2 y.2

/-- A bridge that was stopped. -/
def stopped (k : Kind φ σ) (l : Loop φ σ) : Loop φ σ :=
  { l with actor := (l.actor.stop k).actor, timer := none }

/-- Stops at times. -/
def stopsAt (times : List Nat) : List (Nat × Message) := times.map fun now => (now, .command .stop)

/-- Whether a timer that runs could be made, and has the period that the bridge gives to timers. -/
def Paced (l : Loop φ σ) : Prop := ∀ period, l.timer.map (·.period) = some period →
  Timer.Possible l.period ∧ period = min l.period Timer.longestPeriod

variable {k : Kind φ σ} {workshop : φ} {period : Nat} {record : List (Worked φ σ)}
  {l m next : Loop φ σ}

/-- A tick that is served leaves the period of the timer alone, and so does any other message. -/
theorem period_timerAfter (l : Loop φ σ) (now : Nat) (message : Message) :
    (l.timerAfter now message).map (·.period) = l.timer.map (·.period) := by
  cases message with
  | command | notification => rfl
  | tick =>
    rw [timerAfter]
    rcases l.timer with _ | timer
    · rfl
    · rw [Option.map_some, Option.map_some, Option.map_some, Timer.period_serve]

/-- Work that ends the bridge is all that is done. -/
theorem outcome_cons_none {now : Nat} {message : Message} {effects : List Effect}
    (h : l.work k now message = (effects, none)) (rest : List (Nat × Message)) :
    outcome k l ((now, message) :: rest) = (effects, none) := by
  simp only [outcome, run, worked, h, effectsOf_singleton]

/-- Otherwise the bridge goes on with the rest. -/
theorem outcome_cons_some {now : Nat} {message : Message} {effects : List Effect}
    (h : l.work k now message = (effects, some next)) (rest : List (Nat × Message)) :
    outcome k l ((now, message) :: rest) =
      (effects ++ (outcome k next rest).1, (outcome k next rest).2) := by
  simp only [outcome, run, worked, h, effectsOf_cons]

/-! ## Bridges that are alike -/

theorem Alike.refl (l : Loop φ σ) : Alike l l := ⟨rfl, rfl, rfl⟩

/-- Timers that are alike are brought in line alike. -/
theorem Alike.settle (h : Alike l m) (now later : Nat) :
    Agree (l.settle now) (m.settle later) := by
  obtain ⟨a, timer, period⟩ := l
  obtain ⟨b, other, _⟩ := m
  obtain ⟨rfl, rfl, htimer⟩ := h
  rcases hlive : a.isLive with _ | _
  · simp only [Loop.settle, hlive]
    exact ⟨rfl, .some (.refl _)⟩
  · rcases timer with _ | timer <;> rcases other with _ | other
    · simp only [Loop.settle, hlive]
      split
      · exact ⟨rfl, .some ⟨rfl, rfl, rfl⟩⟩
      · exact ⟨rfl, .none⟩
    · cases htimer
    · cases htimer
    · simp only [Loop.settle, hlive]
      exact ⟨rfl, .some ⟨rfl, rfl, htimer⟩⟩

/-- Bridges that are alike do the same about a message, and stay alike. -/
theorem Alike.work (h : Alike l m) (k : Kind φ σ) (now later : Nat) (message : Message) :
    Agree (l.work k now message) (m.work k later message) := by
  have hturn : l.turn k message = m.turn k message := by
    cases message with
    | command | notification | tick => simp only [turn, h.actor]
  rw [Loop.work, Loop.work, hturn]
  rcases (m.turn k message).broken with _ | _
  · rcases isLast message with _ | _
    · have hafter :
          Alike { l with actor := (m.turn k message).actor, timer := l.timerAfter now message }
            { m with actor := (m.turn k message).actor, timer := m.timerAfter later message } := by
        refine ⟨rfl, h.period, ?_⟩
        rw [period_timerAfter, period_timerAfter, h.timer]
      obtain ⟨heffects, hlast⟩ := hafter.settle now later
      simp only [Bool.false_eq_true, ite_false, heffects]
      exact ⟨rfl, hlast⟩
    · simp only [Bool.false_eq_true, ite_false, ite_true]
      exact ⟨rfl, .none⟩
  · simp only [ite_true]
    exact ⟨rfl, .none⟩

/-- Where work on a message agrees with what was done before and work on another message, and any
bridges that are alike agree about the rest, outcomes agree. -/
theorem Agree.cons {now later : Nat} {first second : Message} {done : List Effect}
    {rest others : List (Nat × Message)}
    (h : Agree (l.work k now first)
      (done ++ (m.work k later second).1, (m.work k later second).2))
    (hrest : ∀ l m, Alike l m → Agree (outcome k l rest) (outcome k m others)) :
    Agree (outcome k l ((now, first) :: rest))
      (done ++ (outcome k m ((later, second) :: others)).1,
        (outcome k m ((later, second) :: others)).2) := by
  rcases hfirst : l.work k now first with ⟨_, last⟩
  rcases hsecond : m.work k later second with ⟨effects, left⟩
  rw [hfirst, hsecond] at h
  obtain ⟨rfl, hlast⟩ := h
  cases hlast with
  | none =>
    rw [outcome_cons_none hfirst, outcome_cons_none hsecond]
    exact ⟨rfl, .none⟩
  | some halike =>
    obtain ⟨hmore, hend⟩ := hrest _ _ halike
    rw [outcome_cons_some hfirst, outcome_cons_some hsecond]
    refine ⟨?_, hend⟩
    rw [hmore, List.append_assoc]

/-- Bridges that are alike do the same about the same messages, at whatever times these come. -/
theorem Alike.outcome (h : Alike l m) (k : Kind φ σ) {messages others : List (Nat × Message)}
    (hsame : messages.map Prod.snd = others.map Prod.snd) :
    Agree (outcome k l messages) (outcome k m others) := by
  induction messages generalizing l m others with
  | nil =>
    obtain rfl := List.map_eq_nil_iff.mp hsame.symm
    exact ⟨rfl, .some h⟩
  | cons message rest ih =>
    obtain ⟨now, message⟩ := message
    rcases others with _ | ⟨⟨later, other⟩, others⟩
    · cases hsame
    · obtain ⟨rfl, hrest⟩ := List.cons.inj hsame
      have hwork : Agree (l.work k now message)
          ([] ++ (m.work k later message).1, (m.work k later message).2) :=
        h.work k now later message
      exact hwork.cons fun l m hlm => ih hlm hrest

/-! ## The period of the timer -/

/-- A timer is made with the right period, or not at all. -/
theorem Paced.settle (h : l.Paced) {now : Nat} (hnext : (l.settle now).2 = some next) :
    next.Paced := by
  rw [Loop.settle] at hnext
  rcases hlive : l.actor.isLive with _ | _
  · simp only [hlive, Option.some.injEq] at hnext
    subst hnext
    intro period hperiod
    cases hperiod
  · rcases htimer : l.timer with _ | timer
    · by_cases hpossible : Timer.Possible l.period
      · simp only [hlive, htimer, hpossible, ite_true, Option.some.injEq] at hnext
        subst hnext
        intro period hperiod
        exact ⟨hpossible, (Option.some.inj hperiod).symm⟩
      · simp only [hlive, htimer, hpossible, ite_false] at hnext
        cases hnext
    · simp only [hlive, htimer, Option.some.injEq] at hnext
      exact hnext ▸ h

/-- So a message leaves a timer of the right period, if there was none of another. -/
theorem Paced.work (h : l.Paced) {now : Nat} {message : Message}
    (hnext : (l.work k now message).2 = some next) : next.Paced := by
  rw [Loop.work] at hnext
  rcases hbroken : (l.turn k message).broken with _ | _
  · rcases hlast : isLast message with _ | _
    · simp only [hbroken, hlast, Bool.false_eq_true, ite_false] at hnext
      refine Paced.settle (fun period hperiod => ?_) hnext
      rw [period_timerAfter] at hperiod
      exact h period hperiod
    · simp only [hbroken, hlast, Bool.false_eq_true, ite_false, ite_true] at hnext
      cases hnext
  · simp only [hbroken, ite_true] at hnext
    cases hnext

/-- In every run the timer has the right period. -/
theorem Run.paced (h : Run k (fresh workshop period) record (some l)) : l.Paced := by
  generalize hlast : some l = last at h
  induction h generalizing l with
  | nil =>
    obtain rfl := Option.some.inj hlast
    intro period hperiod
    cases hperiod
  | snoc h now m ih => exact (ih rfl).work hlast.symm

/-- A timer that is kept and one that is made anew differ at most in when they are due. -/
theorem Paced.settle_anew (h : l.Paced) (now later : Nat) :
    Agree (l.settle now) (Loop.settle later { l with timer := none }) := by
  rcases hlive : l.actor.isLive with _ | _
  · simp only [Loop.settle, hlive]
    exact ⟨rfl, .some (.refl _)⟩
  · rcases htimer : l.timer with _ | timer
    · have halike : Alike l { l with timer := none } := ⟨rfl, rfl, by rw [htimer]⟩
      exact halike.settle now later
    · -- The timer that is kept shows that one can be made, and has the period of a new one.
      obtain ⟨hpossible, hperiod⟩ := h timer.period (by rw [htimer, Option.map_some])
      simp only [Loop.settle, hlive, htimer, hpossible, ite_true]
      refine ⟨rfl, .some ⟨rfl, rfl, ?_⟩⟩
      rw [htimer, Option.map_some, hperiod]
      rfl

/-! ## Stops and starts -/

/-- What a stop does, and what it leaves: no engine and no timer, or no bridge if the engine breaks
when it is shut down. -/
theorem work_stop (k : Kind φ σ) (l : Loop φ σ) (now : Nat) :
    l.work k now (.command .stop) =
      ((l.actor.stop k).effects, if (l.actor.stop k).broken then none else some (l.stopped k)) := by
  have hengine := Actor.engine_stop k l.actor
  have hdrop : dropEngine (l.actor.stop k).actor = [] := by rw [dropEngine, hengine]
  have hlive : (l.actor.stop k).actor.isLive = false := by
    rw [Actor.isLive, hengine, Option.isSome_none]
  have hturn : l.turn k (.command .stop) = l.actor.stop k := rfl
  rw [Loop.work, hturn]
  rcases hbroken : (l.actor.stop k).broken with _ | _
  · simp only [Bool.false_eq_true, ite_false, isLast, Loop.settle, hlive, List.append_nil]
    rfl
  · simp only [ite_true, hdrop, List.append_nil]

/-- A start that finds an engine which breaks when it is shut down does what a stop does. -/
theorem work_start_of_broken (h : (l.actor.stop k).broken = true) (config : Config) (now : Nat) :
    l.work k now (.command (.start config)) = ((l.actor.stop k).effects, none) := by
  have hturn : l.turn k (.command (.start config)) = l.actor.stop k := by
    change (l.actor.stop k).andThen _ = _
    rw [Turn.andThen, h]
    rfl
  have hdrop : dropEngine (l.actor.stop k).actor = [] := by
    rw [dropEngine, Actor.engine_stop]
  rw [Loop.work, hturn]
  simp only [h, ite_true, hdrop, List.append_nil]

/-- Otherwise it does what a stop does, and then what a start does that finds the bridge stopped. -/
theorem Paced.work_start (h : l.Paced) (hbroken : (l.actor.stop k).broken = false)
    (config : Config) (now later : Nat) :
    Agree (l.work k now (.command (.start config)))
      ((l.actor.stop k).effects ++ ((l.stopped k).work k later (.command (.start config))).1,
        ((l.stopped k).work k later (.command (.start config))).2) := by
  have hturn : l.turn k (.command (.start config)) =
      (l.actor.stop k).andThen (Actor.start k config) := (Actor.stop_start k config l.actor).symm
  have hanew : (l.stopped k).turn k (.command (.start config)) =
      (l.actor.stop k).actor.start k config := rfl
  rw [Loop.work, Loop.work, hturn, hanew, Turn.andThen, hbroken]
  generalize (l.actor.stop k).actor.start k config = t
  rcases hbroken : t.broken with _ | _
  · have hpaced : Paced { l with actor := t.actor } := h
    obtain ⟨heffects, hlast⟩ := hpaced.settle_anew now later
    simp only [Bool.false_eq_true, ite_false, hbroken, isLast, timerAfter, heffects,
      List.append_assoc]
    exact ⟨rfl, hlast⟩
  · simp only [Bool.false_eq_true, ite_false, ite_true, hbroken, List.append_assoc]
    exact ⟨rfl, .none⟩

/-- A stop where no engine runs does nothing and leaves everything as it is. -/
theorem Run.work_stop_idle (h : Run k (fresh workshop period) record (some l))
    (hidle : l.actor.engine = none) (now : Nat) : l.work k now (.command .stop) = ([], some l) := by
  have hnone := h.origin.1.cleared hidle
  have hturn : l.turn k (.command .stop) = .done l.actor [] := by
    change l.actor.stop k = _
    rw [Actor.stop_idle k hidle, Actor.cleared_of_entries_eq_nil hnone,
      Actor.cancels_of_entries_eq_nil hnone]
  rw [Loop.work, hturn]
  simp only [Turn.done, Bool.false_eq_true, ite_false, isLast, timerAfter, h.settled.settle,
    List.append_nil]

/-- So stops may be left out there. -/
theorem Run.outcome_stops_idle (h : Run k (fresh workshop period) record (some l))
    (hidle : l.actor.engine = none) (times : List Nat) (rest : List (Nat × Message)) :
    outcome k l (stopsAt times ++ rest) = outcome k l rest := by
  induction times with
  | nil => rfl
  | cons now times ih => exact (outcome_cons_some (h.work_stop_idle hidle now) _).trans ih

/-- What stops in a row and the messages after them come to. -/
theorem Run.outcome_stops (h : Run k (fresh workshop period) record (some l)) (now : Nat)
    (times : List Nat) (rest : List (Nat × Message)) :
    outcome k l (stopsAt (now :: times) ++ rest) =
      if (l.actor.stop k).broken then ((l.actor.stop k).effects, none)
      else ((l.actor.stop k).effects ++ (outcome k (l.stopped k) rest).1,
        (outcome k (l.stopped k) rest).2) := by
  have hwork := work_stop k l now
  have hcons : stopsAt (now :: times) ++ rest =
      (now, .command .stop) :: (stopsAt times ++ rest) := rfl
  rw [hcons]
  rcases hbroken : (l.actor.stop k).broken with _ | _
  · rw [hbroken] at hwork
    have hsnoc := h.snoc now (.command .stop)
    have hafter : (l.worked k now (.command .stop)).after = some (l.stopped k) := by
      rw [worked, hwork]
      rfl
    rw [hafter] at hsnoc
    rw [outcome_cons_some hwork, hsnoc.outcome_stops_idle (Actor.engine_stop k l.actor)]
    rfl
  · rw [hbroken] at hwork
    exact outcome_cons_none hwork _

/-- How a bridge deals with stops. -/
structure Restarts (k : Kind φ σ) (l : Loop φ σ) : Prop where
  /-- To start an engine is to stop, as often as one likes, and to start it then: the same is done,
  and bridges are left that are alike, there and after whatever comes next. -/
  restart : ∀ config stops now later rest others, rest.map Prod.snd = others.map Prod.snd →
    Agree (outcome k l ((now, .command (.start config)) :: rest))
      (outcome k l (stopsAt stops ++ (later, .command (.start config)) :: others))
  /-- Stops in a row do what one of them does. -/
  stops : ∀ stops now later rest, outcome k l (stopsAt (now :: stops) ++ rest) =
    outcome k l ((later, .command .stop) :: rest)
  /-- One that finds no engine does nothing, and the bridge stays as it is. -/
  idle : l.actor.engine = none → ∀ now, l.work k now (.command .stop) = ([], some l)

/-- Every bridge deals with stops in this way, whatever it was told before and whatever its engines
do. -/
theorem restarts_run (h : Run k (fresh workshop period) record (some l)) : Restarts k l := by
  refine ⟨?_, ?_, h.work_stop_idle⟩
  · intro config stops now later rest others hsame
    rcases stops with _ | ⟨first, stops⟩
    · exact (Alike.refl l).outcome k (congrArg (Message.command (.start config) :: ·) hsame)
    · rw [h.outcome_stops]
      rcases hbroken : (l.actor.stop k).broken with _ | _
      · exact (h.paced.work_start hbroken config now later).cons fun l m hlm => hlm.outcome k hsame
      · rw [outcome_cons_none (work_start_of_broken hbroken config now)]
        exact ⟨rfl, .none⟩
  · intro stops now later rest
    have hone := h.outcome_stops later [] rest
    rw [h.outcome_stops]
    exact hone.symm

/-- So does one with an engine at work and a session. -/
theorem restarts_serving : ∃ l, ((fresh 0 1).run answering.kind (restarting.take 2)).2 = some l ∧
    l.actor.isLive = true ∧ l.actor.table.count = 1 ∧ Restarts answering.kind l :=
  ⟨_, rfl, rfl, rfl, restarts_run (run_fresh answering.kind (fresh 0 1) (restarting.take 2))⟩

end Loop

end PacketTunnel.Bridge
