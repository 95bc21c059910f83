import Mathlib.Algebra.BigOperators.Group.Finset.Basic
import Mathlib.Data.Set.Card
import PacketTunnel.Proofs.BackoffGrowth
import PacketTunnel.Proofs.ReconnectEnd

/-!
# The attempts that a budget pays for

A controller that loses no time polls again at once after an attempt, and at the moment that it is
told to wait for. If delays go on for ever and none of them is empty, it is told to throttle in the
end. It has made the attempts back to back by then, and one for each delay that ends, with those
before it, within the budget; an attempt at the very end of the budget is still made.
-/

namespace PacketTunnel

theorem Moment.exists_after? {m : Moment} {s : Span} (h : m.nanos + s.nanos < 2 ^ 63 * 10 ^ 9) :
    ∃ n, m.after? s = some n ∧ n.nanos = m.nanos + s.nanos :=
  ⟨⟨m.nanos + s.nanos, h⟩, after?_eq_some.mpr rfl, rfl⟩

namespace Backoff

/-- A policy with delays for ever, none of which is drawn or empty. -/
inductive Advances : Backoff → Prop where
  /-- One delay for ever. -/
  | constant {delay : Span} (h : 0 < delay.nanos) : Advances (.constant delay)
  /-- Delays that do not get shorter, if the cap leaves any. -/
  | exponential {g : Growth} (hinitial : 0 < g.initial.nanos) (hfactor : 1 ≤ g.factor.toNat)
      (hcap : ∀ cap ∈ g.cap, 0 < cap.nanos) : Advances (.exponential g)

/-- The nanoseconds of delay number `k` of a policy that draws none. -/
def nanos (b : Backoff) (k : Nat) : Nat := (b.delay? k 0).elim 0 Span.nanos

/-- The nanoseconds of the first `k` delays together. -/
def total (b : Backoff) (k : Nat) : Nat := ∑ i ∈ Finset.range k, b.nanos i

theorem total_succ (b : Backoff) (k : Nat) : b.total (k + 1) = b.total k + b.nanos k :=
  Finset.sum_range_succ ..

theorem delay?_constant (delay : Span) (k draw : Nat) :
    (constant delay).delay? k draw = some delay := by
  have hrest : Delays.rest^[k] (constant delay).delays = .constant delay :=
    Function.iterate_fixed rfl k
  rw [delay?, hrest]
  rfl

theorem delay?_exponential (g : Growth) (k draw : Nat) :
    (exponential g).delay? k draw = some (g.delay k) := by
  have hrest : Delays.rest^[k] (exponential g).delays = .exponential (g.after k) :=
    Delays.iterate_rest (fun _ => rfl) g k
  rw [delay?, hrest]
  rfl

theorem Advances.exists_delay {b : Backoff} (h : b.Advances) (k draw : Nat) :
    ∃ delay, b.delay? k draw = some delay ∧ delay.nanos = b.nanos k ∧ 0 < delay.nanos := by
  cases h with
  | @constant delay hpos =>
    refine ⟨delay, delay?_constant .., ?_, hpos⟩
    rw [nanos, delay?_constant, Option.elim_some]
  | @exponential g hinitial hfactor hcap =>
    refine ⟨g.delay k, delay?_exponential .., ?_, ?_⟩
    · rw [nanos, delay?_exponential, Option.elim_some]
    · have hgrown : 0 < g.initial.nanos * g.factor.toNat ^ k :=
        Nat.mul_pos hinitial (Nat.pow_pos hfactor)
      have hceiling : 0 < g.ceiling := by
        unfold Growth.ceiling
        cases hg : g.cap with
        | none => decide
        | some cap => exact hcap cap hg
      rw [g.nanos_delay]
      omega

theorem Advances.nanos_pos {b : Backoff} (h : b.Advances) (k : Nat) : 0 < b.nanos k := by
  obtain ⟨delay, -, hnanos, hpos⟩ := h.exists_delay k 0
  rw [← hnanos]
  exact hpos

theorem total_mono (b : Backoff) : Monotone b.total := by
  apply monotone_nat_of_le_succ
  intro k
  rw [total_succ]
  exact Nat.le_add_right ..

theorem Advances.le_total {b : Backoff} (h : b.Advances) (k : Nat) : k ≤ b.total k := by
  induction k with
  | zero => exact Nat.zero_le _
  | succ k ih =>
    have hpos := h.nanos_pos k
    rw [total_succ]
    omega

theorem total_constant (delay : Span) (k : Nat) : (constant delay).total k = k * delay.nanos := by
  have hnanos (i : Nat) : (constant delay).nanos i = delay.nanos := by
    rw [nanos, delay?_constant, Option.elim_some]
  simp [total, hnanos]

end Backoff

namespace Reconnect

variable {s : Strategy} {e : Episode} {deadline now due : Moment} {draw : Nat}

/-- The delays that end within the budget if each begins where the one before it ends. -/
def Strategy.retries (s : Strategy) : Set Nat := {k | s.delay.total (k + 1) ≤ s.timeout.nanos}

/-- Once a delay ends behind the budget, so do all later ones. -/
theorem Strategy.mem_retries {n : Nat} (hin : s.delay.total n ≤ s.timeout.nanos)
    (hout : s.timeout.nanos < s.delay.total (n + 1)) (k : Nat) : k ∈ s.retries ↔ k < n := by
  unfold Strategy.retries
  constructor
  · intro hmem
    by_contra hle
    have htotal := s.delay.total_mono (Nat.succ_le_succ (Nat.not_lt.mp hle))
    exact Nat.not_lt.mpr (Nat.le_trans htotal hmem) hout
  · intro hlt
    exact Nat.le_trans (s.delay.total_mono hlt) hin

/-- Delays that advance leave the budget at some point. -/
theorem Strategy.exists_last (hdelay : s.delay.Advances) :
    ∃ n, s.delay.total n ≤ s.timeout.nanos ∧ s.timeout.nanos < s.delay.total (n + 1) := by
  have hout : ∃ n, s.timeout.nanos < s.delay.total (n + 1) := by
    refine ⟨s.timeout.nanos, ?_⟩
    have hlong := hdelay.le_total (s.timeout.nanos + 1)
    omega
  classical
  refine ⟨Nat.find hout, ?_, Nat.find_spec hout⟩
  cases hn : Nat.find hout with
  | zero => exact Nat.zero_le _
  | succ n =>
    apply Nat.not_lt.mp
    exact Nat.find_min hout (hn ▸ Nat.lt_succ_self n)

/-- Where they leave it is how many end within it. -/
theorem Strategy.ncard_retries {n : Nat} (h : ∀ k, k ∈ s.retries ↔ k < n) :
    s.retries.Finite ∧ s.retries.ncard = n := by
  have hrange : s.retries = ↑(Finset.range n) := by
    ext k
    rw [h, Finset.mem_coe, Finset.mem_range]
  rw [hrange, Set.ncard_coe_finset, Finset.card_range]
  exact ⟨Finset.finite_toSet _, rfl⟩

/-- Delays of one length fit the budget as often as that length does. -/
theorem Strategy.ncard_retries_constant {delay : Span} (hpos : 0 < delay.nanos)
    (hdelay : s.delay = .constant delay) : s.retries.ncard = s.timeout.nanos / delay.nanos := by
  have hin : s.delay.total (s.timeout.nanos / delay.nanos) ≤ s.timeout.nanos := by
    rw [hdelay, Backoff.total_constant]
    exact Nat.div_mul_le_self ..
  have hout : s.timeout.nanos < s.delay.total (s.timeout.nanos / delay.nanos + 1) := by
    rw [hdelay, Backoff.total_constant, Nat.mul_comm]
    exact Nat.lt_mul_div_succ _ hpos
  exact (Strategy.ncard_retries (Strategy.mem_retries hin hout)).2

namespace Episode

/-- Poll without losing time, as long as there are draws: at once after an attempt, and at the moment
that a poll waits for. -/
def driven (s : Strategy) (e : Episode) (now : Moment) : List Nat → List Turn
  | [] => []
  | draw :: draws =>
    let t := e.turn s ⟨now, draw⟩
    match t.answer with
    | .ok .reconnect => t :: t.after.driven s now draws
    | .ok (.wait due) => t :: t.after.driven s due draws
    | _ => [t]

variable {after : Episode} {delay : Span}

theorem driven_of_reconnect (h : e.poll s draw now = (after, .ok .reconnect)) (draws : List Nat) :
    e.driven s now (draw :: draws) =
      ⟨⟨now, draw⟩, e, after, .ok .reconnect⟩ :: after.driven s now draws := by
  rw [driven, turn, h]

theorem driven_of_wait (h : e.poll s draw now = (after, .ok (.wait due))) (draws : List Nat) :
    e.driven s now (draw :: draws) =
      ⟨⟨now, draw⟩, e, after, .ok (.wait due)⟩ :: after.driven s due draws := by
  rw [driven, turn, h]

theorem driven_of_throttle (h : e.poll s draw now = (after, .ok .throttle)) (draws : List Nat) :
    e.driven s now (draw :: draws) = [⟨⟨now, draw⟩, e, after, .ok .throttle⟩] := by
  rw [driven, turn, h]

theorem attempt_of_lt (h : e.attempts + 1 < s.burst) :
    e.attempt s draw now = ({ e with attempts := e.attempts + 1 }, .ok .reconnect) := by
  simp only [attempt, s.succ_lt_burst.mp h, ite_true]

theorem attempt_of_le {rest : Delays} (h : s.burst ≤ e.attempts + 1)
    (hnext : e.delays.next? draw = some (delay, rest)) (hdue : now.after? delay = some due) :
    e.attempt s draw now =
      ({ e with attempts := e.attempts + 1, delays := rest, nextAttempt := some due },
        .ok .reconnect) := by
  have himmediate : ¬ e.attempts + 1 < s.immediate.toNat :=
    mt s.succ_lt_burst.mpr (Nat.not_lt.mpr h)
  simp only [attempt, himmediate, ite_false, hnext, hdue]

/-- Attempts are made back to back, none of them the last of those. -/
structure Bursts (s : Strategy) (start deadline : Moment) (e : Episode) : Prop where
  /-- Some are left. -/
  attempts : e.attempts < s.burst
  /-- No delay was taken. -/
  delays : e.delays = s.delay.delays
  /-- Delays may come. -/
  exhausted : e.exhausted = false
  /-- The budget is open or is opened. -/
  opens : e.openBudget s start = some { e with deadline := some deadline }

/-- Retry number `k` is planned. -/
structure Plans (s : Strategy) (deadline : Moment) (k : Nat) (due : Moment) (e : Episode) :
    Prop where
  /-- The attempts back to back and the retries before it are counted. -/
  attempts : e.attempts = s.burst + k
  /-- Its delay was taken, and those before it. -/
  delays : e.delays = Delays.rest^[k + 1] s.delay.delays
  /-- The budget is open. -/
  deadline : e.deadline = some deadline
  /-- It is due when its delay ends. -/
  next : e.nextAttempt = some due
  /-- Delays may come. -/
  exhausted : e.exhausted = false

theorem bursts_start {start : Moment} (h : start.after? s.timeout = some deadline) :
    Bursts s start deadline (.start s) where
  attempts := s.burst_pos
  delays := rfl
  exhausted := rfl
  opens := by
    rw [openBudget, if_pos ⟨rfl, rfl⟩, h]
    rfl

/-- A poll within the budget makes an attempt. -/
theorem Bursts.exists_due {start : Moment} (h : Bursts s start deadline e)
    (hin : start.nanos ≤ deadline.nanos) (draw : Nat) : ∃ tried : Episode,
      e.poll s draw start = tried.attempt s draw start ∧ tried.attempts = e.attempts ∧
      tried.delays = s.delay.delays ∧ tried.exhausted = false ∧ tried.deadline = some deadline :=
  ⟨_, poll_of_lt h.attempts h.opens rfl hin rfl h.exhausted, rfl, h.delays, h.exhausted, rfl⟩

/-- An attempt may be back to back with the next one. -/
theorem Bursts.again {start : Moment} (h : Bursts s start deadline e)
    (hin : start.nanos ≤ deadline.nanos) (hmore : e.attempts + 1 < s.burst) (draw : Nat) :
    ∃ after, e.poll s draw start = (after, .ok .reconnect) ∧ Bursts s start deadline after ∧
      after.attempts = e.attempts + 1 := by
  obtain ⟨tried, hpoll, hattempts, hdelays, hexhausted, hdeadline⟩ := h.exists_due hin draw
  rw [← hattempts] at hmore ⊢
  rw [hpoll, attempt_of_lt hmore]
  refine ⟨_, rfl, ⟨hmore, hdelays, hexhausted, ?_⟩, rfl⟩
  apply openBudget_eq_of_deadline
  exact hdeadline

/-- The last one plans the first retry. -/
theorem Bursts.last {start : Moment} (h : Bursts s start deadline e)
    (hin : start.nanos ≤ deadline.nanos) (hlast : e.attempts + 1 = s.burst)
    (hdelay : s.delay.delay? 0 draw = some delay) (hdue : start.after? delay = some due) :
    ∃ after, e.poll s draw start = (after, .ok .reconnect) ∧ Plans s deadline 0 due after := by
  obtain ⟨tried, hpoll, hattempts, hdelays, hexhausted, hdeadline⟩ := h.exists_due hin draw
  obtain ⟨⟨_, rest⟩, hnext, rfl⟩ := Option.map_eq_some_iff.mp hdelay
  have hrest := Delays.eq_rest_of_next? hnext
  rw [Function.iterate_zero, id_eq, ← hdelays] at hnext
  rw [← hattempts] at hlast
  rw [hpoll, attempt_of_le (Nat.le_of_eq hlast.symm) hnext hdue]
  exact ⟨_, rfl, hlast, hrest, hdeadline, rfl, hexhausted⟩

namespace Plans

variable {k : Nat}

theorem burst_le (h : Plans s deadline k due e) : s.burst ≤ e.attempts := by
  rw [h.attempts]
  exact Nat.le_add_right ..

theorem wait (h : Plans s deadline k due e) (hin : now.nanos ≤ deadline.nanos)
    (hwait : now.nanos < due.nanos) (draw : Nat) :
    e.poll s draw now = (e, .ok (.wait due)) := by
  rw [poll_of_le h.burst_le h.deadline hin h.exhausted h.next, if_pos hwait]

/-- A retry that is due too late is not made. -/
theorem throttle (h : Plans s deadline k due e) (hlate : deadline.nanos < due.nanos)
    (draw : Nat) : e.poll s draw due = (e, .ok .throttle) := by
  rw [poll_of_late (openBudget_of_deadline h.deadline) h.deadline hlate,
    dueAtOnce_of_le h.burst_le]

/-- A retry that is due plans the next one. -/
theorem retry (h : Plans s deadline k due e) (hin : due.nanos ≤ deadline.nanos)
    (hdelay : s.delay.delay? (k + 1) draw = some delay) {next : Moment}
    (hnext : due.after? delay = some next) :
    ∃ after, e.poll s draw due = (after, .ok .reconnect) ∧
      Plans s deadline (k + 1) next after := by
  obtain ⟨⟨_, rest⟩, htaken, rfl⟩ := Option.map_eq_some_iff.mp hdelay
  have hrest := Delays.eq_rest_of_next? htaken
  rw [← Function.iterate_succ_apply' Delays.rest] at hrest
  rw [← h.delays] at htaken
  have hle : s.burst ≤ e.attempts + 1 := Nat.le_succ_of_le h.burst_le
  rw [poll_of_le h.burst_le h.deadline hin h.exhausted h.next, if_neg (Nat.lt_irrefl _),
    attempt_of_le hle htaken hnext]
  exact ⟨_, rfl, congrArg (· + 1) h.attempts, hrest, h.deadline, rfl, h.exhausted⟩

end Plans

end Episode

/-- What the poll decides. -/
def Turn.decision? (t : Turn) : Option Decision := t.answer.toOption

/-- A record that ends with the one poll on it that throttles. -/
structure Ended (counter tries waits : Nat) (record : List Turn) : Prop where
  /-- Before it, polls try again or wait. -/
  throttles : ∃ before last, record = before ++ [last] ∧ last.answer = .ok .throttle ∧
    ∀ t ∈ before, t.answer = .ok .reconnect ∨ ∃ due, t.answer = .ok (.wait due)
  /-- So many of them try again. -/
  tried : (record.filterMap Turn.decision?).count .reconnect = tries
  /-- So many polls are on record. -/
  length : record.length = tries + waits + 1
  /-- The counter of attempts goes no further than that. -/
  counted : ∀ t ∈ record, t.after.attempts ≤ counter

namespace Ended

variable {counter tries waits : Nat} {record : List Turn} {t : Turn}

theorem throttle (h : t.answer = .ok .throttle) (hcounter : t.after.attempts ≤ counter) :
    Ended counter 0 0 [t] where
  throttles := ⟨[], t, rfl, h, fun _ ht => absurd ht List.not_mem_nil⟩
  tried := by
    rw [List.filterMap_cons, Turn.decision?, h]
    rfl
  length := rfl
  counted u hu := by
    rw [List.mem_singleton.mp hu]
    exact hcounter

theorem throttles_cons (hrecord : Ended counter tries waits record)
    (h : t.answer = .ok .reconnect ∨ ∃ due, t.answer = .ok (.wait due)) :
    ∃ before last, t :: record = before ++ [last] ∧ last.answer = .ok .throttle ∧
      ∀ u ∈ before, u.answer = .ok .reconnect ∨ ∃ due, u.answer = .ok (.wait due) := by
  obtain ⟨before, last, rfl, hlast, hbefore⟩ := hrecord.throttles
  exact ⟨t :: before, last, rfl, hlast, List.forall_mem_cons.mpr ⟨h, hbefore⟩⟩

theorem reconnect (hrecord : Ended counter tries waits record) (h : t.answer = .ok .reconnect)
    (hcounter : t.after.attempts ≤ counter) : Ended counter (tries + 1) waits (t :: record) where
  throttles := hrecord.throttles_cons (.inl h)
  tried := by
    have hdecision : t.decision? = some .reconnect := by rw [Turn.decision?, h]; rfl
    rw [List.filterMap_cons_some hdecision, List.count_cons_self, hrecord.tried]
  length := by
    rw [List.length_cons, hrecord.length]
    omega
  counted := List.forall_mem_cons.mpr ⟨hcounter, hrecord.counted⟩

theorem wait {due : Moment} (hrecord : Ended counter tries waits record)
    (h : t.answer = .ok (.wait due)) (hcounter : t.after.attempts ≤ counter) :
    Ended counter tries (waits + 1) (t :: record) where
  throttles := hrecord.throttles_cons (.inr ⟨due, h⟩)
  tried := by
    have hdecision : t.decision? = some (.wait due) := by rw [Turn.decision?, h]; rfl
    have hother : Decision.wait due ≠ .reconnect := fun heq => by cases heq
    rw [List.filterMap_cons_some hdecision, List.count_cons_of_ne hother, hrecord.tried]
  length := by
    rw [List.length_cons, hrecord.length]
    omega
  counted := List.forall_mem_cons.mpr ⟨hcounter, hrecord.counted⟩

end Ended

theorem exists_cons_cons {draws : List Nat} {n : Nat} (h : n + 2 ≤ draws.length) :
    ∃ first second rest, draws = first :: second :: rest ∧ n ≤ rest.length := by
  match draws, h with
  | first :: second :: rest, h => exact ⟨first, second, rest, rfl, Nat.le_of_add_le_add_right h⟩

/-- The delays advance, and a clock can show the ends of all that begin within the budget. -/
structure Spaced (s : Strategy) (start deadline : Moment) : Prop where
  /-- There are delays for ever. -/
  advances : s.delay.Advances
  /-- The budget ends at the deadline. -/
  ends : deadline.nanos = start.nanos + s.timeout.nanos
  /-- No moment that is planned is out of range. -/
  inRange : ∀ k, s.delay.total k ≤ s.timeout.nanos →
    start.nanos + s.delay.total (k + 1) < 2 ^ 63 * 10 ^ 9

variable {start : Moment}

/-- A delay that begins within the budget leads to a moment. -/
theorem Spaced.exists_moment (h : Spaced s start deadline) {k : Nat}
    (hbegins : s.delay.total k ≤ s.timeout.nanos)
    (hnow : now.nanos = start.nanos + s.delay.total k) (draw : Nat) :
    ∃ delay due, s.delay.delay? k draw = some delay ∧ now.after? delay = some due ∧
      due.nanos = start.nanos + s.delay.total (k + 1) := by
  obtain ⟨delay, hgiven, hnanos, -⟩ := h.advances.exists_delay k draw
  have hends := h.inRange k hbegins
  have hsum : now.nanos + delay.nanos = start.nanos + s.delay.total (k + 1) := by
    rw [hnow, hnanos, Backoff.total_succ, Nat.add_assoc]
  obtain ⟨due, hdue, hmoment⟩ := Moment.exists_after? (hsum ▸ hends)
  exact ⟨delay, due, hgiven, hdue, hmoment.trans hsum⟩

/-- From a retry that is planned on, retries are made when they are due, up to the first that is due
behind the budget. -/
theorem Spaced.ended_plans (hspaced : Spaced s start deadline) {k left : Nat}
    (h : Episode.Plans s deadline k due e)
    (hdue : due.nanos = start.nanos + s.delay.total (k + 1))
    (hnow : now.nanos = start.nanos + s.delay.total k)
    (hbegins : s.delay.total k ≤ s.timeout.nanos) (hleft : ∀ j, j ∈ s.retries ↔ j < k + left)
    {draws : List Nat} (hdraws : 2 * left + 2 ≤ draws.length) :
    Ended (s.burst + (k + left)) left (left + 1) (e.driven s now draws) := by
  have hdeadline := hspaced.ends
  have hlonger := s.delay.total_succ k
  have hpos := hspaced.advances.nanos_pos k
  -- The poll behind an attempt comes before its delay has begun to pass, so it waits.
  have hwait (draw : Nat) : e.poll s draw now = (e, .ok (.wait due)) :=
    h.wait (by omega) (by omega) draw
  induction left generalizing e k now due draws with
  | zero =>
    have hout : ¬ s.delay.total (k + 1) ≤ s.timeout.nanos := mt (hleft k).mp (Nat.lt_irrefl k)
    have hlate : deadline.nanos < due.nanos := by omega
    obtain ⟨first, second, rest, rfl, -⟩ := exists_cons_cons hdraws
    rw [Episode.driven_of_wait (hwait first), Episode.driven_of_throttle (h.throttle hlate second)]
    have hcount : e.attempts ≤ s.burst + (k + 0) := Nat.le_of_eq h.attempts
    exact (Ended.throttle rfl hcount).wait rfl hcount
  | succ left ih =>
    have hin : s.delay.total (k + 1) ≤ s.timeout.nanos := (hleft k).mpr (by omega)
    have hnext := s.delay.total_succ (k + 1)
    have hnextpos := hspaced.advances.nanos_pos (k + 1)
    have hsum : k + (left + 1) = k + 1 + left := by omega
    rw [hsum] at hleft ⊢
    obtain ⟨first, second, rest, rfl, hrest⟩ := exists_cons_cons hdraws
    obtain ⟨delay, moment, hgiven, hafter, hmoment⟩ := hspaced.exists_moment hin hdue second
    obtain ⟨after, hpoll, hplans⟩ := h.retry (by omega) hgiven hafter
    have hlater := ih hplans hmoment hdue hin hleft hrest hnext hnextpos
      fun draw => hplans.wait (by omega) (by omega) draw
    have hbefore : e.attempts ≤ s.burst + (k + 1 + left) := by
      rw [h.attempts]
      omega
    have hcount : after.attempts ≤ s.burst + (k + 1 + left) := by
      rw [hplans.attempts]
      omega
    rw [Episode.driven_of_wait (hwait first), Episode.driven_of_reconnect hpoll]
    exact (hlater.reconnect rfl hcount).wait rfl hbefore

/-- From an attempt back to back on, the others are made at once, and then the retries. -/
theorem Spaced.ended_bursts (hspaced : Spaced s start deadline)
    (h : Episode.Bursts s start deadline e) {n left : Nat}
    (hretries : ∀ j, j ∈ s.retries ↔ j < 0 + n) (hleft : e.attempts + (left + 1) = s.burst)
    {draws : List Nat} (hdraws : left + 1 + (2 * n + 2) ≤ draws.length) :
    Ended (s.burst + n) (left + 1 + n) (n + 1) (e.driven s start draws) := by
  have hin : start.nanos ≤ deadline.nanos := by
    rw [hspaced.ends]
    exact Nat.le_add_right ..
  induction left generalizing e draws with
  | zero =>
    match draws, hdraws with
    | first :: rest, hdraws =>
      have hbegins : s.delay.total 0 ≤ s.timeout.nanos := Nat.zero_le _
      have hrest : 2 * n + 2 ≤ rest.length := by
        rw [List.length_cons] at hdraws
        omega
      obtain ⟨delay, due, hgiven, hafter, hdue⟩ := hspaced.exists_moment hbegins rfl first
      obtain ⟨after, hpoll, hplans⟩ := h.last hin hleft hgiven hafter
      have hlater := hspaced.ended_plans hplans hdue rfl hbegins hretries hrest
      have hcount : after.attempts ≤ s.burst + n := by
        rw [hplans.attempts]
        omega
      rw [Nat.zero_add] at hlater ⊢
      rw [Episode.driven_of_reconnect hpoll, Nat.add_comm 1 n]
      exact hlater.reconnect rfl hcount
  | succ left ih =>
    match draws, hdraws with
    | first :: rest, hdraws =>
      have hrest : left + 1 + (2 * n + 2) ≤ rest.length := by
        rw [List.length_cons] at hdraws
        omega
      obtain ⟨after, hpoll, hbursts, hattempts⟩ := h.again hin (by omega) first
      have hlater := ih hbursts (by omega) hrest
      have hcount : after.attempts ≤ s.burst + n := by omega
      have hsum : left + 1 + 1 + n = left + 1 + n + 1 := by omega
      rw [Episode.driven_of_reconnect hpoll, hsum]
      exact hlater.reconnect rfl hcount

/-- A controller that loses no time, with delays that advance and a clock that can show every moment
that is planned, is told to throttle, and only by the last of finitely many polls. By then it has
tried again as often as attempts are made back to back, and once for each delay that ends, with those
before it, at the deadline or in front of it. The counter of attempts never passes that number, so it
suffices that 32 bits can hold it. Draws serve to number the polls: no delay depends on them. -/
theorem budget_run (s : Strategy) (hdelay : s.delay.Advances) (start : Moment)
    (hbudget : (start.after? s.timeout).isSome)
    (hrange : ∀ k, s.delay.total k ≤ s.timeout.nanos →
      start.nanos + s.delay.total (k + 1) < 2 ^ 63 * 10 ^ 9)
    (draws : List Nat) (hdraws : s.burst + 2 * s.retries.ncard + 2 ≤ draws.length) :
    s.retries.Finite ∧
    Ended (s.burst + s.retries.ncard) (s.burst + s.retries.ncard) (s.retries.ncard + 1)
      ((Episode.start s).driven s start draws) ∧
    ∀ delay, s.delay = .constant delay → s.retries.ncard = s.timeout.nanos / delay.nanos := by
  obtain ⟨deadline, hdeadline⟩ := Option.isSome_iff_exists.mp hbudget
  obtain ⟨n, hin, hout⟩ := Strategy.exists_last hdelay
  have hmem := Strategy.mem_retries hin hout
  obtain ⟨hfinite, hcard⟩ := Strategy.ncard_retries hmem
  have hspaced : Spaced s start deadline := ⟨hdelay, (Moment.after?_eq_some.mp hdeadline).symm, hrange⟩
  refine ⟨hfinite, ?_, ?_⟩
  · obtain ⟨left, hleft⟩ : ∃ left, s.burst = left + 1 :=
      Nat.exists_eq_succ_of_ne_zero (Nat.ne_of_gt s.burst_pos)
    have hcount : (Episode.start s).attempts + (left + 1) = s.burst := by
      rw [hleft]
      exact Nat.zero_add _
    rw [hcard, hleft, Nat.add_assoc] at hdraws
    rw [← Nat.zero_add n] at hmem
    have hended := hspaced.ended_bursts (Episode.bursts_start hdeadline) hmem hcount hdraws
    rw [hcard]
    rw [← hleft] at hended
    exact hended
  · intro delay hconstant
    rw [hconstant] at hdelay
    cases hdelay with
    | constant hpos => exact Strategy.ncard_retries_constant hpos hconstant

/-- Two attempts back to back, then a second, two seconds, four and so on, for ten seconds. -/
def doubling : Strategy where
  immediate := 2
  delay := .exponential { initial := Span.ofSeconds 1, factor := 2, cap := none }
  timeout := Span.ofSeconds 10

theorem budget_doubling : doubling.burst + 2 * doubling.retries.ncard + 2 = 10 ∧
    Ended 5 5 4 ((Episode.start doubling).driven doubling .zero (List.replicate 10 0)) := by
  have hin : doubling.delay.total 3 ≤ doubling.timeout.nanos := by decide
  have hout : doubling.timeout.nanos < doubling.delay.total 4 := by decide
  have hcard := (Strategy.ncard_retries (Strategy.mem_retries hin hout)).2
  have hdelay : doubling.delay.Advances := .exponential (by decide) (by decide) nofun
  have hrange (k : Nat) (hk : doubling.delay.total k ≤ doubling.timeout.nanos) :
      Moment.zero.nanos + doubling.delay.total (k + 1) < 2 ^ 63 * 10 ^ 9 := by
    have hle : k + 1 ≤ 4 := by
      by_contra hlt
      exact absurd (doubling.delay.total_mono (by omega : 4 ≤ k)) (by omega)
    have htotal : doubling.delay.total (k + 1) ≤ doubling.delay.total 4 :=
      doubling.delay.total_mono hle
    exact Nat.lt_of_le_of_lt (Nat.add_le_add_left htotal _) (by decide)
  have hdraws : doubling.burst + 2 * doubling.retries.ncard + 2 = 10 := by rw [hcard]; rfl
  have hrun := budget_run doubling hdelay .zero (by decide) hrange (List.replicate 10 0)
    (Nat.le_of_eq hdraws)
  rw [hcard] at hrun
  exact ⟨hdraws, hrun.2.1⟩


end Reconnect

end PacketTunnel
