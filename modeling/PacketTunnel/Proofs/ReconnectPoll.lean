import PacketTunnel.Reconnect

/-!
# What a poll comes to

A poll that is neither late nor behind the end of the delays has one of three outcomes. As long as
attempts are made back to back it is an attempt. Later it waits for the moment that the last attempt
planned, or it is the attempt of that moment. Behind the last delay it throttles. The first attempt
never waits, so a strategy without attempts back to back is one with a single such attempt.
-/

namespace PacketTunnel

namespace Delays

/-- A delay that is taken off a sequence leaves the rest of it. -/
theorem eq_rest_of_next? {d rest : Delays} {draw : Nat} {delay : Span}
    (h : d.next? draw = some (delay, rest)) : rest = d.rest := by
  obtain ⟨bound, -, hbound⟩ := Option.map_eq_some_iff.mp h
  exact (congrArg Prod.snd hbound).symm

/-- A sequence that has no delay stays as it is. -/
theorem rest_of_next? {d : Delays} {draw : Nat} (h : d.next? draw = Option.none) : d.rest = d := by
  cases d with
  | none => rfl
  | constant delay => exact absurd h (Option.some_ne_none _)
  | exponential growth => exact absurd h (Option.some_ne_none _)
  | jittered growth => exact absurd h (Option.some_ne_none _)

end Delays

namespace Reconnect

variable {s : Strategy} {e : Episode} {now : Moment} {draw : Nat}

/-- How many attempts are made as soon as they are asked for. -/
def Strategy.burst (s : Strategy) : Nat := max s.immediate.toNat 1

theorem Strategy.burst_pos (s : Strategy) : 0 < s.burst := Nat.le_max_right ..

theorem Strategy.lt_burst (s : Strategy) {n : Nat} :
    n < s.burst ↔ n = 0 ∨ n < s.immediate.toNat := by
  unfold Strategy.burst
  omega

theorem Strategy.succ_lt_burst (s : Strategy) {n : Nat} :
    n + 1 < s.burst ↔ n + 1 < s.immediate.toNat := by
  unfold Strategy.burst
  omega

namespace Episode

theorem dueAtOnce_of_lt (h : e.attempts < s.burst) :
    e.dueAtOnce s now = { e with nextAttempt := some now } := by
  rw [dueAtOnce, if_pos (s.lt_burst.mp h)]

theorem dueAtOnce_of_le (h : s.burst ≤ e.attempts) : e.dueAtOnce s now = e := by
  rw [dueAtOnce, if_neg (mt s.lt_burst.mpr (Nat.not_lt.mpr h))]

theorem openBudget_of_deadline {deadline : Moment} (h : e.deadline = some deadline) :
    e.openBudget s now = some e := by
  rw [openBudget, if_neg]
  rintro ⟨-, hnone⟩
  exact Option.some_ne_none _ (h.symm.trans hnone)

/-- Within the budget, only an end of the delays helps against further attempts. -/
theorem isOver_of_deadline {deadline : Moment} (h : e.deadline = some deadline)
    (hnow : now.nanos ≤ deadline.nanos) : e.isOver now = e.exhausted := by
  have hin : ¬ deadline.nanos < now.nanos := Nat.not_lt.mpr hnow
  rw [isOver, h]
  simp only [hin, decide_false, Bool.or_false]

/-- Back to back, every poll is an attempt. -/
theorem poll_of_lt {opened : Episode} {deadline : Moment} (hlt : e.attempts < s.burst)
    (hopen : e.openBudget s now = some opened) (hdeadline : opened.deadline = some deadline)
    (hnow : now.nanos ≤ deadline.nanos) (hattempts : opened.attempts = e.attempts)
    (hexhausted : opened.exhausted = false) :
    e.poll s draw now = attempt s draw now { opened with nextAttempt := some now } := by
  have hover : isOver now { opened with nextAttempt := some now } = false :=
    (isOver_of_deadline hdeadline hnow).trans hexhausted
  rw [poll, hopen]
  simp only [dueAtOnce_of_lt (hattempts ▸ hlt), hover, Bool.false_eq_true, ite_false,
    Nat.lt_irrefl]

/-- Later, a poll waits for the moment that was planned. -/
theorem poll_of_le {deadline due : Moment} (hle : s.burst ≤ e.attempts)
    (hdeadline : e.deadline = some deadline) (hnow : now.nanos ≤ deadline.nanos)
    (hexhausted : e.exhausted = false) (hdue : e.nextAttempt = some due) :
    e.poll s draw now =
      if now.nanos < due.nanos then (e, .ok (.wait due)) else e.attempt s draw now := by
  have hover : e.isOver now = false := (isOver_of_deadline hdeadline hnow).trans hexhausted
  rw [poll, openBudget_of_deadline hdeadline]
  simp only [dueAtOnce_of_le hle, hover, Bool.false_eq_true, ite_false, hdue]

/-- Behind the last delay, a poll throttles. -/
theorem poll_of_exhausted {deadline : Moment} (hle : s.burst ≤ e.attempts)
    (hdeadline : e.deadline = some deadline) (hexhausted : e.exhausted = true) :
    e.poll s draw now = (e, .ok .throttle) := by
  have hover : e.isOver now = true := by rw [isOver, hexhausted, Bool.true_or]
  rw [poll, openBudget_of_deadline hdeadline]
  simp only [dueAtOnce_of_le hle, hover, ite_true]

/-- What an attempt can lead to. -/
inductive Attempted (s : Strategy) (draw : Nat) (now : Moment) (e : Episode) :
    Episode → Except Overflow Decision → Prop where
  /-- Back to back with the next attempt, which is not planned. -/
  | backToBack (h : e.attempts + 1 < s.burst) :
    Attempted s draw now e { e with attempts := e.attempts + 1 } (.ok .reconnect)
  /-- The next attempt is planned a delay later. -/
  | planned (h : s.burst ≤ e.attempts + 1) {delay : Span} {rest : Delays} {due : Moment}
      (hnext : e.delays.next? draw = some (delay, rest)) (hdue : now.after? delay = some due) :
    Attempted s draw now e
      { e with attempts := e.attempts + 1, delays := rest, nextAttempt := some due }
      (.ok .reconnect)
  /-- There is no delay, so this was the last attempt. -/
  | last (h : s.burst ≤ e.attempts + 1) (hnext : e.delays.next? draw = none) :
    Attempted s draw now e
      { e with attempts := e.attempts + 1, exhausted := true, nextAttempt := none }
      (.ok .reconnectExhausted)
  /-- The next attempt would be beyond every clock. -/
  | overflow (h : s.burst ≤ e.attempts + 1) {delay : Span} {rest : Delays}
      (hnext : e.delays.next? draw = some (delay, rest)) (hdue : now.after? delay = none) :
    Attempted s draw now e { e with attempts := e.attempts + 1, delays := rest }
      (.error .momentOutOfRange)

theorem attempted_attempt (s : Strategy) (draw : Nat) (now : Moment) (e : Episode) :
    Attempted s draw now e (e.attempt s draw now).1 (e.attempt s draw now).2 := by
  rcases Nat.lt_or_ge (e.attempts + 1) s.burst with hlt | hle
  · have himmediate : e.attempts + 1 < s.immediate.toNat := s.succ_lt_burst.mp hlt
    simp only [attempt, himmediate, ite_true]
    exact .backToBack hlt
  · have himmediate : ¬ e.attempts + 1 < s.immediate.toNat :=
      mt s.succ_lt_burst.mpr (Nat.not_lt.mpr hle)
    cases hnext : e.delays.next? draw with
    | none =>
      simp only [attempt, himmediate, ite_false, hnext]
      exact .last hle hnext
    | some next =>
      obtain ⟨delay, rest⟩ := next
      cases hdue : now.after? delay with
      | none =>
        simp only [attempt, himmediate, ite_false, hnext, hdue]
        exact .overflow hle hnext hdue
      | some due =>
        simp only [attempt, himmediate, ite_false, hnext, hdue]
        exact .planned hle hnext hdue

/-- A poll depends on a strategy only through its burst and its budget. -/
theorem poll_congr {s' : Strategy} (hburst : s.burst = s'.burst) (htimeout : s.timeout = s'.timeout)
    (e : Episode) : e.poll s draw now = e.poll s' draw now := by
  have hopen : e.openBudget s now = e.openBudget s' now := by
    rw [openBudget, openBudget, htimeout]
  have hdue (e : Episode) : e.dueAtOnce s now = e.dueAtOnce s' now := by
    rcases Nat.lt_or_ge e.attempts s.burst with hlt | hle
    · rw [dueAtOnce_of_lt hlt, dueAtOnce_of_lt (hburst ▸ hlt)]
    · rw [dueAtOnce_of_le hle, dueAtOnce_of_le (hburst ▸ hle)]
  have hattempt (e : Episode) : e.attempt s draw now = e.attempt s' draw now := by
    have hlt : e.attempts + 1 < s.immediate.toNat ↔ e.attempts + 1 < s'.immediate.toNat := by
      rw [← s.succ_lt_burst, ← s'.succ_lt_burst, hburst]
    simp only [attempt, hlt]
  simp only [poll, hopen, hdue, hattempt]

end Episode

end Reconnect

end PacketTunnel
