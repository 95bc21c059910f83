import Mathlib.Algebra.GroupWithZero.Nat
import PacketTunnel.Proofs.ReconnectEnd

/-!
# Polls that no clock can answer

A poll adds spans to the moment it is made at: the budget, if it is the first, and the delay behind
the attempt that it makes. The second sum can leave the range of the clock although the first does
not, since delays may be longer than any budget. Such a delay would end behind the budget. But the
poll fails, and only after it has counted its attempt and used up the delay; the next poll that is
made in time is an attempt again, at once.
-/

namespace PacketTunnel

theorem Moment.after?_eq_none {m : Moment} {s : Span} :
    m.after? s = none ↔ 1 <<< 63 * nanosPerSecond ≤ m.nanos + s.nanos := by
  unfold after? ofNanos?
  split
  next hlt => exact ⟨fun h => (by cases h), fun h => absurd hlt (Nat.not_lt.mpr h)⟩
  next hlt => exact ⟨fun _ => Nat.not_lt.mp hlt, fun _ => rfl⟩

namespace Reconnect

variable {s : Strategy} {e after due : Episode} {now : Moment} {draw : Nat}
  {answer : Except Overflow Decision}

/-- What a poll does, whether it has an answer or not. -/
inductive Undertaken (s : Strategy) (draw : Nat) (now : Moment) (e : Episode) :
    Episode → Except Overflow Decision → Prop where
  /-- The budget cannot be opened. -/
  | unopened (h : now.after? s.timeout = none) :
    Undertaken s draw now e e (.error .momentOutOfRange)
  /-- No attempt is made. -/
  | rests {after : Episode} {decision : Decision} (hattempts : after.attempts = e.attempts)
      (hdelays : after.delays = e.delays) : Undertaken s draw now e after (.ok decision)
  /-- An attempt that is due is made within the budget. -/
  | tries {due : Episode} {next deadline : Moment} (hattempts : due.attempts = e.attempts)
      (hdelays : due.delays = e.delays) (hexhausted : due.exhausted = false)
      (hdeadline : due.deadline = some deadline) (hnext : due.nextAttempt = some next)
      (hnow : next.nanos ≤ now.nanos) {after : Episode} {answer : Except Overflow Decision}
      (h : Episode.Attempted s draw now due after answer) : Undertaken s draw now e after answer

namespace Episode

theorem attempts_openBudget {opened : Episode} (h : e.openBudget s now = some opened) :
    opened.attempts = e.attempts ∧ opened.delays = e.delays := by
  unfold openBudget at h
  split at h
  · obtain ⟨deadline, -, rfl⟩ := Option.map_eq_some_iff.mp h
    exact ⟨rfl, rfl⟩
  · obtain rfl := Option.some.inj h
    exact ⟨rfl, rfl⟩

theorem after?_of_openBudget (h : e.openBudget s now = none) : now.after? s.timeout = none := by
  unfold openBudget at h
  split at h
  · exact Option.map_eq_none_iff.mp h
  · cases h

@[simp] theorem delays_dueAtOnce (s : Strategy) (now : Moment) (e : Episode) :
    (e.dueAtOnce s now).delays = e.delays := by
  unfold dueAtOnce
  split <;> rfl

theorem of_isOver_eq_false (h : e.isOver now = false) :
    e.exhausted = false ∧ ∃ deadline, e.deadline = some deadline := by
  unfold isOver at h
  rw [Bool.or_eq_false_iff] at h
  refine ⟨h.1, ?_⟩
  cases hdeadline : e.deadline with
  | none =>
    rw [hdeadline] at h
    have hover : true = false := h.2
    cases hover
  | some deadline => exact ⟨deadline, rfl⟩

theorem undertaken_poll (s : Strategy) (draw : Nat) (now : Moment) (e : Episode) :
    Undertaken s draw now e (e.poll s draw now).1 (e.poll s draw now).2 := by
  cases hopen : e.openBudget s now with
  | none =>
    rw [poll, hopen]
    exact .unopened (after?_of_openBudget hopen)
  | some opened =>
    obtain ⟨hattempts, hdelays⟩ := attempts_openBudget hopen
    have hattempts : (opened.dueAtOnce s now).attempts = e.attempts := by simp [hattempts]
    have hdelays : (opened.dueAtOnce s now).delays = e.delays := by simp [hdelays]
    rw [poll, hopen]
    simp only
    generalize opened.dueAtOnce s now = due at hattempts hdelays
    by_cases hover : due.isOver now = true
    · simp only [hover, ite_true]
      exact .rests hattempts hdelays
    · rw [Bool.not_eq_true] at hover
      obtain ⟨hexhausted, deadline, hdeadline⟩ := of_isOver_eq_false hover
      cases hnext : due.nextAttempt with
      | none =>
        simp only [hover, Bool.false_eq_true, ite_false]
        exact .rests hattempts hdelays
      | some next =>
        by_cases hwait : now.nanos < next.nanos
        · simp only [hover, Bool.false_eq_true, ite_false, hwait, ite_true]
          exact .rests hattempts hdelays
        · simp only [hover, Bool.false_eq_true, ite_false, hwait]
          exact .tries hattempts hdelays hexhausted hdeadline hnext (Nat.not_lt.mp hwait)
            (attempted_attempt s draw now due)

theorem Attempted.attempts_eq (h : Attempted s draw now e after answer) :
    after.attempts = e.attempts + 1 := by
  cases h <;> rfl

/-- One delay is taken with each attempt from the last one back to back on. -/
def InStep (s : Strategy) (e : Episode) : Prop :=
  e.delays = Delays.rest^[e.attempts + 1 - s.burst] s.delay.delays

theorem inStep_start (s : Strategy) : InStep s (.start s) := by
  have h : 0 + 1 - s.burst = 0 := Nat.sub_eq_zero_of_le s.burst_pos
  rw [InStep, start, h]
  rfl

/-- Delays are taken in step also by attempts that fail. -/
theorem InStep.attempted (h : InStep s e) (hattempted : Attempted s draw now e after answer) :
    InStep s after := by
  have hrest (hle : s.burst ≤ e.attempts + 1) :
      e.delays.rest = Delays.rest^[e.attempts + 1 + 1 - s.burst] s.delay.delays := by
    rw [h, ← Function.iterate_succ_apply' Delays.rest, Nat.sub_add_comm hle]
  cases hattempted with
  | backToBack hlt =>
    have hnone : e.attempts + 1 + 1 - s.burst = e.attempts + 1 - s.burst := by omega
    rw [InStep, hnone]
    exact h
  | planned hle hnext => exact (Delays.eq_rest_of_next? hnext).trans (hrest hle)
  | last hle hnext => exact (Delays.rest_of_next? hnext).symm.trans (hrest hle)
  | overflow hle hnext => exact (Delays.eq_rest_of_next? hnext).trans (hrest hle)

theorem InStep.of_same (h : InStep s e) (hattempts : after.attempts = e.attempts)
    (hdelays : after.delays = e.delays) : InStep s after := by
  rw [InStep, hattempts, hdelays]
  exact h

theorem InStep.poll (h : InStep s e) (draw : Nat) (now : Moment) :
    InStep s (e.poll s draw now).1 := by
  have hundertaken := undertaken_poll s draw now e
  generalize e.poll s draw now = polled at hundertaken
  obtain ⟨after, answer⟩ := polled
  cases hundertaken with
  | unopened => exact h
  | rests hattempts hdelays => exact h.of_same hattempts hdelays
  | tries hattempts hdelays _ _ _ _ hattempted =>
    exact (h.of_same hattempts hdelays).attempted hattempted

/-- Each poll on record was made of an episode in step, with one of the looks. -/
theorem InStep.turns {looks : List Look} (h : InStep s e) {t : Turn} (ht : t ∈ e.turns s looks) :
    t.look ∈ looks ∧ InStep s t.before ∧ t = t.before.turn s t.look := by
  induction looks generalizing e with
  | nil => exact absurd ht List.not_mem_nil
  | cons x looks ih =>
    rw [turns] at ht
    rcases List.mem_cons.mp ht with rfl | ht
    · exact ⟨List.mem_cons_self .., h, rfl⟩
    · obtain ⟨hlook, hrest⟩ := ih (h.poll x.draw x.now) ht
      exact ⟨List.mem_cons_of_mem _ hlook, hrest⟩

end Episode

/-- A poll that counted an attempt, which was not back to back with another one, under a delay that
no clock shows the end of. -/
structure Turn.Overruns (s : Strategy) (t : Turn) (delay : Span) : Prop where
  /-- The attempt was counted. -/
  counted : t.after.attempts = t.before.attempts + 1
  /-- A delay is due behind it. -/
  spaced : s.burst ≤ t.after.attempts
  /-- This is the delay of its number. -/
  delayed : s.delay.delay? (t.after.attempts - s.burst) t.look.draw = some delay
  /-- It ends beyond every clock. -/
  beyond : t.look.now.after? delay = none

/-- Where the budget can be added, polls fail by overrunning, and only so. -/
theorem Episode.InStep.overflow_iff (h : InStep s e) {x : Look}
    (hrange : (x.now.after? s.timeout).isSome) :
    (e.turn s x).answer = .error .momentOutOfRange ↔ ∃ delay, (e.turn s x).Overruns s delay := by
  have hundertaken := undertaken_poll s x.draw x.now e
  rw [turn]
  generalize e.poll s x.draw x.now = polled at hundertaken
  obtain ⟨after, answer⟩ := polled
  cases hundertaken with
  | unopened hnone =>
    rw [hnone] at hrange
    exact absurd hrange Bool.false_ne_true
  | rests hattempts =>
    constructor
    · intro herror
      cases herror
    · rintro ⟨delay, hoverruns⟩
      exact absurd (hattempts.symm.trans hoverruns.counted) (Nat.ne_of_lt (Nat.lt_succ_self _))
  | @tries due next deadline hattempts hdelays hexhausted hdeadline hnext hnow _ _ hattempted =>
    have hin := h.of_same hattempts hdelays
    have hdelay : s.delay.delay? (due.attempts + 1 - s.burst) x.draw =
        (due.delays.next? x.draw).map (·.1) := by
      rw [Backoff.delay?, ← hin]
    cases hattempted with
    | backToBack hlt =>
      constructor
      · intro herror
        cases herror
      · rintro ⟨delay, hoverruns⟩
        exact absurd hlt (Nat.not_lt.mpr hoverruns.spaced)
    | @planned hle delay rest moment hdelays hmoment =>
      rw [hdelays, Option.map_some] at hdelay
      constructor
      · intro herror
        cases herror
      · rintro ⟨other, hoverruns⟩
        obtain rfl := Option.some.inj (hdelay.symm.trans hoverruns.delayed)
        exact absurd (hmoment.symm.trans hoverruns.beyond) (Option.some_ne_none _)
    | last hle hdelays =>
      rw [hdelays, Option.map_none] at hdelay
      constructor
      · intro herror
        cases herror
      · rintro ⟨delay, hoverruns⟩
        exact absurd (hdelay.symm.trans hoverruns.delayed).symm (Option.some_ne_none _)
    | @overflow hle delay rest hdelays hbeyond =>
      rw [hdelays, Option.map_some] at hdelay
      exact ⟨fun _ => ⟨delay, congrArg (· + 1) hattempts, hle, hdelay, hbeyond⟩, fun _ => rfl⟩

/-- A poll that fails leaves an attempt due and the budget open. -/
theorem Episode.due_of_overflow {x : Look} (hrange : (x.now.after? s.timeout).isSome)
    (h : (e.turn s x).answer = .error .momentOutOfRange) : ∃ next deadline,
      s.burst ≤ (e.turn s x).after.attempts ∧ (e.turn s x).after.exhausted = false ∧
      (e.turn s x).after.deadline = some deadline ∧
      (e.turn s x).after.nextAttempt = some next ∧ next.nanos ≤ x.now.nanos := by
  have hundertaken := undertaken_poll s x.draw x.now e
  rw [turn] at h ⊢
  generalize e.poll s x.draw x.now = polled at h hundertaken
  obtain ⟨after, answer⟩ := polled
  cases hundertaken with
  | unopened hnone =>
    rw [hnone] at hrange
    exact absurd hrange Bool.false_ne_true
  | rests => cases h
  | @tries due next deadline hattempts hdelays hexhausted hdeadline hnext hnow _ _ hattempted =>
    cases hattempted with
    | backToBack | planned | last => cases h
    | overflow hle => exact ⟨next, deadline, hle, hexhausted, hdeadline, hnext, hnow⟩

/-- So the next poll in time is an attempt at once. -/
theorem Episode.attempts_of_overflow {x y : Look} (hrange : (x.now.after? s.timeout).isSome)
    (h : (e.turn s x).answer = .error .momentOutOfRange) (hle : x.now.nanos ≤ y.now.nanos)
    (hin : ∀ deadline ∈ (e.turn s x).after.deadline, y.now.nanos ≤ deadline.nanos) :
    ((e.turn s x).after.turn s y).after.attempts = (e.turn s x).after.attempts + 1 := by
  obtain ⟨next, deadline, hburst, hexhausted, hdeadline, hnext, hnow⟩ := due_of_overflow hrange h
  have hdue : ¬ y.now.nanos < next.nanos := Nat.not_lt.mpr (Nat.le_trans hnow hle)
  generalize (e.turn s x).after = failed at *
  rw [turn, poll_of_le hburst hdeadline (hin deadline hdeadline) hexhausted hnext, if_neg hdue]
  exact (attempted_attempt s y.draw y.now failed).attempts_eq

theorem Turn.Overruns.timeout_lt {t : Turn} {delay : Span} (h : t.Overruns s delay)
    (hrange : (t.look.now.after? s.timeout).isSome) : s.timeout.nanos < delay.nanos := by
  obtain ⟨moment, hmoment⟩ := Option.isSome_iff_exists.mp hrange
  have hbudget := Moment.after?_eq_some.mp hmoment
  have hbeyond := Moment.after?_eq_none.mp h.beyond
  have hclock := moment.nanos_lt
  omega

/-- In every episode, if the budget can be added to the moments of the polls, a poll fails exactly
if it counts an attempt whose delay ends beyond every clock. The delay is longer than the budget then
and would have ended behind it, yet the next poll in time is an attempt at once. No poll fails if no
delay is longer than the budget. -/
theorem overflow_run (s : Strategy) (looks : List Look)
    (hrange : ∀ x ∈ looks, (x.now.after? s.timeout).isSome) :
    (∀ t ∈ (Episode.start s).turns s looks,
      (t.answer = .error .momentOutOfRange ↔ ∃ delay, t.Overruns s delay) ∧
      ∀ delay, t.Overruns s delay → s.timeout.nanos < delay.nanos ∧
        (∀ first ∈ looks.head?,
          first.now.nanos + s.timeout.nanos < t.look.now.nanos + delay.nanos) ∧
        ∀ x : Look, t.look.now.nanos ≤ x.now.nanos →
          (∀ deadline ∈ t.after.deadline, x.now.nanos ≤ deadline.nanos) →
          (t.after.turn s x).after.attempts = t.after.attempts + 1) ∧
    ((∀ k draw delay, s.delay.delay? k draw = some delay → delay.nanos ≤ s.timeout.nanos) →
      ∀ t ∈ (Episode.start s).turns s looks, t.answer.isOk) := by
  have hturn (t : Turn) (ht : t ∈ (Episode.start s).turns s looks) :=
    (Episode.inStep_start s).turns ht
  have hiff (t : Turn) (ht : t ∈ (Episode.start s).turns s looks) :
      t.answer = .error .momentOutOfRange ↔ ∃ delay, t.Overruns s delay := by
    obtain ⟨hlook, hin, hsame⟩ := hturn t ht
    rw [hsame]
    exact hin.overflow_iff (hrange _ hlook)
  constructor
  · intro t ht
    refine ⟨hiff t ht, fun delay hoverruns => ?_⟩
    obtain ⟨hlook, hin, hsame⟩ := hturn t ht
    have hbudget := hrange _ hlook
    refine ⟨hoverruns.timeout_lt hbudget, fun first hfirst => ?_, fun x hle hdeadline => ?_⟩
    · obtain ⟨moment, hmoment⟩ :=
        Option.isSome_iff_exists.mp (hrange first (List.mem_of_mem_head? hfirst))
      rw [Moment.after?_eq_some.mp hmoment]
      exact Nat.lt_of_lt_of_le moment.nanos_lt (Moment.after?_eq_none.mp hoverruns.beyond)
    · have hanswer := (hiff t ht).mpr ⟨delay, hoverruns⟩
      rw [hsame] at hanswer hle hdeadline ⊢
      exact Episode.attempts_of_overflow hbudget hanswer hle hdeadline
  · intro hshort t ht
    cases hanswer : t.answer with
    | ok decision => rfl
    | error overflow =>
      obtain ⟨delay, hoverruns⟩ := (hiff t ht).mp hanswer
      have hlong := hoverruns.timeout_lt (hrange _ (hturn t ht).1)
      exact absurd (hshort _ _ _ hoverruns.delayed) (Nat.not_le.mpr hlong)

/-- Delays that have grown to the longest span, for a minute. -/
def outgrown : Strategy where
  immediate := 0
  delay := .exponential { initial := .clamp Span.limit, factor := 2, cap := none }
  timeout := .ofSeconds 60

/-- Polls at 0, 30 and 61 seconds. -/
def outgrownLooks : List Look :=
  [0, 30, 61].filterMap fun seconds => (Moment.ofNanos? (seconds * nanosPerSecond)).map (⟨·, 0⟩)

/-- The first two fail, and each of them counts an attempt; the last one throttles. -/
theorem overflow_outgrown :
    (∀ x ∈ outgrownLooks, (x.now.after? outgrown.timeout).isSome) ∧
    ((Episode.start outgrown).turns outgrown outgrownLooks).map
      (fun t => (t.answer.isOk, t.after.attempts)) = [(false, 1), (false, 2), (true, 2)] ∧
    ∀ t ∈ (Episode.start outgrown).turns outgrown outgrownLooks,
      t.answer = .error .momentOutOfRange ↔ ∃ delay, t.Overruns outgrown delay :=
  ⟨by decide, by decide, fun t ht => ((overflow_run outgrown outgrownLooks (by decide)).1 t ht).1⟩

/-- That the budget can be added is not enough for polls in order to have an answer. -/
theorem not_always_answered : ¬ ∀ (s : Strategy) (looks : List Look),
    (∀ x ∈ looks, (x.now.after? s.timeout).isSome) →
    (looks.Pairwise fun x y => x.now.nanos ≤ y.now.nanos) →
    (attempts ((Episode.start s).turns s looks)).length < 2 ^ 32 →
    ∀ t ∈ (Episode.start s).turns s looks, t.answer.isOk := by
  intro h
  have hfirst := h outgrown [⟨.zero, 0⟩] (by decide) (by decide) (by decide)
  exact absurd hfirst (by decide)

end Reconnect

end PacketTunnel
