import Mathlib.Logic.Function.Iterate
import PacketTunnel.Proofs.ReconnectPoll

/-!
# The schedule of an episode

An episode of polls is kept on record, each poll with the episode before and after it. The record
tells what the next poll must do: as long as fewer attempts are on it than are made back to back,
that poll is an attempt; afterwards the last attempt on it and the delay drawn there say when the
next one is due. The episode stands for its record in this sense, and every poll within the budget
keeps it so. The instants of the polls need not be in order.
-/

namespace PacketTunnel

/-- The delay number `k` that a policy gives, under the draw made for it. -/
def Backoff.delay? (b : Backoff) (k draw : Nat) : Option Span :=
  ((Delays.rest^[k] b.delays).next? draw).map (·.1)

namespace Reconnect

/-- Whether a decision is to try again. -/
def Decision.isAttempt : Decision → Bool
  | reconnect => true
  | reconnectExhausted => true
  | _ => false

/-- A reading of the clock for a poll, with the draw at hand for the next delay. -/
structure Look where
  /-- The reading. -/
  now : Moment
  /-- The draw. -/
  draw : Nat

/-- A poll that was made. -/
structure Turn where
  /-- What it was made with. -/
  look : Look
  /-- The episode that it found. -/
  before : Episode
  /-- The episode that it left. -/
  after : Episode
  /-- Its answer. -/
  answer : Except Overflow Decision

namespace Turn

/-- Whether the poll is an attempt. -/
def isAttempt (t : Turn) : Bool :=
  match t.answer with
  | .ok decision => decision.isAttempt
  | .error _ => false

/-- The poll left everything as it was. -/
def Idle (t : Turn) : Prop := t.after = t.before

end Turn

/-- Make a poll, for the record. -/
def Episode.turn (s : Strategy) (e : Episode) (x : Look) : Turn :=
  ⟨x, e, (e.poll s x.draw x.now).1, (e.poll s x.draw x.now).2⟩

/-- Make polls one after the other. -/
def Episode.turns (s : Strategy) (e : Episode) : List Look → List Turn
  | [] => []
  | x :: rest => e.turn s x :: (e.turn s x).after.turns s rest

/-- The attempts on record. -/
def attempts (earlier : List Turn) : List Turn := earlier.filter Turn.isAttempt

/-- What the schedule of a strategy asks of a poll with other polls before it. Attempts are numbered
from one, so with `k` of them on record the delay behind the last one has number `k - s.burst`. -/
structure Scheduled (s : Strategy) (earlier : List Turn) (t : Turn) : Prop where
  /-- The episode has counted the attempts before. -/
  before : t.before.attempts = (attempts earlier).length
  /-- It counts this one. -/
  after : t.after.attempts = (attempts (earlier ++ [t])).length
  /-- Back to back, every poll is an attempt. -/
  atOnce : (attempts earlier).length < s.burst → t.isAttempt
  /-- Later, the next attempt is the first poll that is not before the moment that lies the delay of
  the last attempt behind it. Until then polls wait and change nothing; without a delay they
  throttle. -/
  spaced : s.burst ≤ (attempts earlier).length → ∃ last, (attempts earlier).getLast? = some last ∧
    match s.delay.delay? ((attempts earlier).length - s.burst) last.look.draw with
    | none => t.answer = .ok .throttle ∧ t.Idle
    | some delay => ∃ due, last.look.now.after? delay = some due ∧
      if t.look.now.nanos < due.nanos then t.answer = .ok (.wait due) ∧ t.Idle else t.isAttempt
  /-- An attempt is the last one if it is not made back to back and has no delay behind it. -/
  answer : t.isAttempt → t.answer = .ok (
    if (attempts earlier).length + 1 < s.burst ∨
      (s.delay.delay? ((attempts earlier).length + 1 - s.burst) t.look.draw).isSome then .reconnect
    else .reconnectExhausted)

/-- Where an episode is in its schedule. -/
inductive Stage (s : Strategy) (earlier : List Turn) (e : Episode) : Prop where
  /-- Attempts are made back to back. -/
  | burst (h : e.attempts < s.burst) (hexhausted : e.exhausted = false)
  /-- The next attempt is planned. -/
  | planned (h : s.burst ≤ e.attempts) (hexhausted : e.exhausted = false) {last : Turn}
      (hlast : (attempts earlier).getLast? = some last) {delay : Span} {due : Moment}
      (hdelay : s.delay.delay? (e.attempts - s.burst) last.look.draw = some delay)
      (hdue : last.look.now.after? delay = some due) (hnext : e.nextAttempt = some due)
  /-- The delays have run out. -/
  | spent (h : s.burst ≤ e.attempts) (hexhausted : e.exhausted = true) {last : Turn}
      (hlast : (attempts earlier).getLast? = some last)
      (hdelay : s.delay.delay? (e.attempts - s.burst) last.look.draw = none)

/-- An episode stands for the polls on record. -/
structure Stands (s : Strategy) (earlier : List Turn) (e : Episode) : Prop where
  /-- It has counted their attempts. -/
  counted : e.attempts = (attempts earlier).length
  /-- It has taken one delay with each attempt from the last one back to back on. -/
  delays : e.delays = Delays.rest^[e.attempts + 1 - s.burst] s.delay.delays
  /-- Without polls the budget is not open. -/
  unopened : earlier = [] → e.deadline = none
  /-- It is open from the first of them on. -/
  opened : ∀ first rest, earlier = first :: rest →
    ∃ deadline, first.look.now.after? s.timeout = some deadline ∧ e.deadline = some deadline
  /-- It is at some stage of the schedule. -/
  stage : Stage s earlier e

theorem stands_start (s : Strategy) : Stands s [] (.start s) where
  counted := rfl
  delays := by
    have h : 0 + 1 - s.burst = 0 := Nat.sub_eq_zero_of_le s.burst_pos
    rw [Episode.start, h]
    rfl
  unopened _ := rfl
  opened _ _ h := absurd h.symm (List.cons_ne_nil _ _)
  stage := .burst s.burst_pos rfl

theorem attempts_snoc (earlier : List Turn) (t : Turn) :
    attempts (earlier ++ [t]) = attempts earlier ++ if t.isAttempt then [t] else [] := by
  rw [attempts, List.filter_append, List.filter_cons, List.filter_nil]
  rfl

variable {s : Strategy} {earlier : List Turn}

theorem length_attempts_snoc {t : Turn} (h : t.isAttempt = true) :
    (attempts (earlier ++ [t])).length = (attempts earlier).length + 1 := by
  rw [attempts_snoc, if_pos h, List.length_append, List.length_singleton]

theorem getLast?_attempts_snoc {t : Turn} (h : t.isAttempt = true) :
    (attempts (earlier ++ [t])).getLast? = some t := by
  rw [attempts_snoc, if_pos h, List.getLast?_concat]

theorem attempts_snoc_idle {t : Turn} (h : t.isAttempt = false) :
    attempts (earlier ++ [t]) = attempts earlier := by
  rw [attempts_snoc, if_neg (Bool.eq_false_iff.mp h), List.append_nil]

/-- An attempt is answered by what its delay says, and the episode that it leaves stands for the
record with it. -/
theorem stands_attempt {x : Look} {before e after : Episode} {decision : Decision}
    (h : Episode.Attempted s x.draw x.now e after (.ok decision))
    (hattempts : e.attempts = (attempts earlier).length)
    (hdelays : e.delays = Delays.rest^[e.attempts + 1 - s.burst] s.delay.delays)
    (hexhausted : e.exhausted = false)
    (hopened : ∀ first rest, earlier ++ [⟨x, before, after, .ok decision⟩] = first :: rest →
      ∃ deadline, first.look.now.after? s.timeout = some deadline ∧ e.deadline = some deadline) :
    decision.isAttempt = true ∧ decision = (
      if e.attempts + 1 < s.burst ∨
        (s.delay.delay? (e.attempts + 1 - s.burst) x.draw).isSome then .reconnect
      else .reconnectExhausted) ∧
    Stands s (earlier ++ [⟨x, before, after, .ok decision⟩]) after := by
  have hdelay : s.delay.delay? (e.attempts + 1 - s.burst) x.draw =
      (e.delays.next? x.draw).map (·.1) := by
    rw [Backoff.delay?, ← hdelays]
  have hunopened (t : Turn) : earlier ++ [t] = [] → after.deadline = none := fun h =>
    absurd h (List.append_ne_nil_of_right_ne_nil _ (List.cons_ne_nil _ _))
  have hrest (hle : s.burst ≤ e.attempts + 1) :
      Delays.rest^[e.attempts + 1 + 1 - s.burst] s.delay.delays = e.delays.rest := by
    have hindex : e.attempts + 1 + 1 - s.burst = e.attempts + 1 - s.burst + 1 := by omega
    rw [hindex, Function.iterate_succ_apply', ← hdelays]
  have hcount (t : Turn) (ht : t.isAttempt = true) :
      e.attempts + 1 = (attempts (earlier ++ [t])).length := by
    rw [length_attempts_snoc ht, ← hattempts]
  cases h with
  | backToBack hlt =>
    have hindex : e.attempts + 1 + 1 - s.burst = e.attempts + 1 - s.burst := by omega
    have htaken : e.delays = Delays.rest^[e.attempts + 1 + 1 - s.burst] s.delay.delays := by
      rw [hindex, hdelays]
    exact ⟨rfl, (if_pos (.inl hlt)).symm, hcount _ rfl, htaken, hunopened _, hopened,
      .burst hlt hexhausted⟩
  | @planned hle delay rest due hnext hdue =>
    rw [hnext, Option.map_some] at hdelay
    have hsome : (s.delay.delay? (e.attempts + 1 - s.burst) x.draw).isSome := by
      rw [hdelay]
      rfl
    have htaken := (Delays.eq_rest_of_next? hnext).trans (hrest hle).symm
    exact ⟨rfl, (if_pos (.inr hsome)).symm, hcount _ rfl, htaken, hunopened _, hopened,
      .planned hle hexhausted (getLast?_attempts_snoc rfl) hdelay hdue rfl⟩
  | last hle hnext =>
    rw [hnext, Option.map_none] at hdelay
    have hlast : ¬ (e.attempts + 1 < s.burst ∨
        (s.delay.delay? (e.attempts + 1 - s.burst) x.draw).isSome) := by
      rw [hdelay]
      exact fun h => h.elim (Nat.not_lt.mpr hle) Bool.false_ne_true
    have htaken := (Delays.rest_of_next? hnext).symm.trans (hrest hle).symm
    exact ⟨rfl, (if_neg hlast).symm, hcount _ rfl, htaken, hunopened _, hopened,
      .spent hle rfl (getLast?_attempts_snoc rfl) hdelay⟩

/-- The first poll opens the budget, and every poll within it finds it open. -/
theorem Stands.openBudget {e : Episode} {x : Look} (h : Stands s earlier e) {after : Episode}
    {decision : Decision} (hpoll : e.poll s x.draw x.now = (after, .ok decision))
    (hbudget : ∀ first rest, earlier ++ [⟨x, e, after, .ok decision⟩] = first :: rest →
      x.now.nanos ≤ first.look.now.nanos + s.timeout.nanos) :
    ∃ deadline, e.openBudget s x.now = some { e with deadline := some deadline } ∧
      (earlier ≠ [] → e.deadline = some deadline) ∧ x.now.nanos ≤ deadline.nanos ∧
      ∀ first rest, earlier ++ [⟨x, e, after, .ok decision⟩] = first :: rest →
        first.look.now.after? s.timeout = some deadline := by
  cases earlier with
  | nil =>
    have hopen : e.openBudget s x.now =
        (x.now.after? s.timeout).map fun deadline => { e with deadline := some deadline } := by
      rw [Episode.openBudget, if_pos ⟨h.counted, h.unopened rfl⟩]
    cases hdeadline : x.now.after? s.timeout with
    | none =>
      rw [hdeadline] at hopen
      rw [Episode.poll, hopen] at hpoll
      exact absurd (congrArg Prod.snd hpoll) (by simp)
    | some deadline =>
      rw [hdeadline] at hopen
      refine ⟨deadline, hopen, fun h => absurd rfl h, ?_, ?_⟩
      · have hnow := hbudget _ _ rfl
        rw [Moment.after?_eq_some.mp hdeadline] at hnow
        exact hnow
      · rintro first rest hfirst
        obtain ⟨rfl, -⟩ := List.cons.inj hfirst
        exact hdeadline
  | cons first rest =>
    obtain ⟨deadline, hdeadline, he⟩ := h.opened first rest rfl
    refine ⟨deadline, ?_, fun _ => he, ?_, ?_⟩
    · rw [Episode.openBudget_of_deadline he, ← he]
    · have hnow := hbudget _ _ rfl
      rw [Moment.after?_eq_some.mp hdeadline] at hnow
      exact hnow
    · rintro _ _ hfirst
      obtain ⟨rfl, -⟩ := List.cons.inj hfirst
      exact hdeadline

/-- A poll that is no attempt and changes nothing leaves the episode where it was. -/
theorem Stands.idle {e : Episode} (h : Stands s earlier e) {t : Turn} (ht : t.isAttempt = false)
    (hopened : ∀ first rest, earlier ++ [t] = first :: rest →
      ∃ deadline, first.look.now.after? s.timeout = some deadline ∧ e.deadline = some deadline) :
    Stands s (earlier ++ [t]) e where
  counted := by rw [attempts_snoc_idle ht, h.counted]
  delays := h.delays
  unopened hnil := absurd hnil (List.append_ne_nil_of_right_ne_nil _ (List.cons_ne_nil _ _))
  opened := hopened
  stage := by
    have hsame : (attempts (earlier ++ [t])).getLast? = (attempts earlier).getLast? :=
      congrArg List.getLast? (attempts_snoc_idle ht)
    cases h.stage with
    | burst hlt hexhausted => exact .burst hlt hexhausted
    | planned hle hexhausted hlast hdelay hdue hnext =>
      exact .planned hle hexhausted (hsame.trans hlast) hdelay hdue hnext
    | spent hle hexhausted hlast hdelay =>
      exact .spent hle hexhausted (hsame.trans hlast) hdelay

/-- Where an attempt is on record, there is a first poll. -/
theorem ne_nil_of_getLast? {last : Turn} (h : (attempts earlier).getLast? = some last) :
    earlier ≠ [] := by
  rintro rfl
  exact absurd h.symm (Option.some_ne_none _)

/-- An attempt that is due does what the schedule asks. -/
theorem Stands.attempt {x : Look} {before e after : Episode} {decision : Decision}
    (h : Stands s earlier before) (hattempt : e.attempt s x.draw x.now = (after, .ok decision))
    (hattempts : e.attempts = before.attempts) (hdelays : e.delays = before.delays)
    (hexhausted : e.exhausted = false)
    (hopened : ∀ first rest, earlier ++ [⟨x, before, after, .ok decision⟩] = first :: rest →
      ∃ deadline, first.look.now.after? s.timeout = some deadline ∧ e.deadline = some deadline)
    (hdue : s.burst ≤ before.attempts → ∃ last, (attempts earlier).getLast? = some last ∧
      ∃ delay, s.delay.delay? (before.attempts - s.burst) last.look.draw = some delay ∧
      ∃ due, last.look.now.after? delay = some due ∧ ¬ x.now.nanos < due.nanos) :
    Scheduled s earlier ⟨x, before, after, .ok decision⟩ ∧
      Stands s (earlier ++ [⟨x, before, after, .ok decision⟩]) after := by
  have hattempted := Episode.attempted_attempt s x.draw x.now e
  rw [hattempt] at hattempted
  obtain ⟨htry, hdecision, hstands⟩ := stands_attempt hattempted (hattempts.trans h.counted)
    (by rw [hdelays, hattempts, h.delays]) hexhausted hopened
  refine ⟨⟨h.counted, hstands.counted, fun _ => htry, fun hle => ?_, fun _ => ?_⟩, hstands⟩
  · rw [← h.counted] at hle ⊢
    obtain ⟨last, hlast, delay, hdelay, due, hmoment, hnow⟩ := hdue hle
    refine ⟨last, hlast, ?_⟩
    rw [hdelay]
    exact ⟨due, hmoment, by rw [if_neg hnow]; exact htry⟩
  · rw [← h.counted, ← hattempts]
    exact congrArg Except.ok hdecision

/-- A poll within the budget does what the schedule asks, and the episode that it leaves stands for
the record with it. -/
theorem Stands.poll {e after : Episode} {x : Look} {decision : Decision} (h : Stands s earlier e)
    (hpoll : e.poll s x.draw x.now = (after, .ok decision))
    (hbudget : ∀ first rest, earlier ++ [⟨x, e, after, .ok decision⟩] = first :: rest →
      x.now.nanos ≤ first.look.now.nanos + s.timeout.nanos) :
    Scheduled s earlier ⟨x, e, after, .ok decision⟩ ∧
      Stands s (earlier ++ [⟨x, e, after, .ok decision⟩]) after := by
  obtain ⟨deadline, hopen, hdeadline, hnow, hfirst⟩ := h.openBudget hpoll hbudget
  cases h.stage with
  | burst hlt hexhausted =>
    rw [Episode.poll_of_lt hlt hopen rfl hnow rfl hexhausted] at hpoll
    exact h.attempt hpoll rfl rfl hexhausted
      (fun first rest hf => ⟨deadline, hfirst first rest hf, rfl⟩)
      fun hle => absurd hlt (Nat.not_lt.mpr hle)
  | @planned hle hexhausted last hlast delay due hdelay hdue hnext =>
    have hdeadline := hdeadline (ne_nil_of_getLast? hlast)
    have hopened : ∀ first rest, earlier ++ [⟨x, e, after, .ok decision⟩] = first :: rest →
        ∃ deadline, first.look.now.after? s.timeout = some deadline ∧ e.deadline = some deadline :=
      fun first rest hf => ⟨deadline, hfirst first rest hf, hdeadline⟩
    have hrun := hpoll.symm.trans (Episode.poll_of_le hle hdeadline hnow hexhausted hnext)
    by_cases hwait : x.now.nanos < due.nanos
    · rw [if_pos hwait] at hrun
      obtain ⟨rfl, hanswer⟩ := Prod.mk.inj hrun
      obtain rfl := Except.ok.inj hanswer
      have hstands := h.idle rfl hopened
      refine ⟨⟨h.counted, hstands.counted, fun hlt => ?_, fun _ => ⟨last, hlast, ?_⟩,
        fun htry => absurd htry Bool.false_ne_true⟩, hstands⟩
      · exact absurd hlt (Nat.not_lt.mpr (h.counted ▸ hle))
      · rw [← h.counted, hdelay]
        exact ⟨due, hdue, by rw [if_pos hwait]; exact ⟨rfl, rfl⟩⟩
    · rw [if_neg hwait] at hrun
      exact h.attempt hrun.symm rfl rfl hexhausted hopened
        fun _ => ⟨last, hlast, delay, hdelay, due, hdue, hwait⟩
  | @spent hle hexhausted last hlast hdelay =>
    have hdeadline := hdeadline (ne_nil_of_getLast? hlast)
    have hrun := hpoll.symm.trans (Episode.poll_of_exhausted hle hdeadline hexhausted)
    obtain ⟨rfl, hanswer⟩ := Prod.mk.inj hrun
    obtain rfl := Except.ok.inj hanswer
    have hstands := h.idle rfl fun first rest hf => ⟨deadline, hfirst first rest hf, hdeadline⟩
    refine ⟨⟨h.counted, hstands.counted, fun hlt => ?_, fun _ => ⟨last, hlast, ?_⟩,
      fun htry => absurd htry Bool.false_ne_true⟩, hstands⟩
    · exact absurd hlt (Nat.not_lt.mpr (h.counted ▸ hle))
    · rw [← h.counted, hdelay]
      exact ⟨rfl, rfl⟩

theorem exists_ok {answer : Except Overflow Decision} (h : answer.isOk) :
    ∃ decision, answer = .ok decision := by
  cases answer with
  | ok decision => exact ⟨decision, rfl⟩
  | error overflow => exact absurd h Bool.false_ne_true

/-- Polls within the budget do what the schedule asks, one after the other. -/
theorem Stands.turns {e : Episode} {looks : List Look} (h : Stands s earlier e)
    (hfine : ∀ t ∈ e.turns s looks, t.answer.isOk)
    (hbudget : ∀ first rest, earlier ++ e.turns s looks = first :: rest → ∀ x ∈ looks,
      x.now.nanos ≤ first.look.now.nanos + s.timeout.nanos)
    {before later : List Turn} {t : Turn} (hturns : e.turns s looks = before ++ t :: later) :
    Scheduled s (earlier ++ before) t := by
  induction looks generalizing earlier e before with
  | nil => exact absurd hturns.symm (List.append_ne_nil_of_right_ne_nil _ (List.cons_ne_nil _ _))
  | cons x looks ih =>
    rw [Episode.turns] at hfine hbudget hturns
    generalize hturn : e.turn s x = now at hfine hbudget hturns
    obtain ⟨decision, hanswer⟩ := exists_ok (hfine now (List.mem_cons_self ..))
    have hnow : now = ⟨x, e, now.after, .ok decision⟩ := by
      rw [← hanswer, ← hturn]
      rfl
    have hpoll : e.poll s x.draw x.now = (now.after, .ok decision) := by
      rw [← hanswer, ← hturn]
      rfl
    have hfirst : ∀ first rest, earlier ++ [now] = first :: rest →
        ∀ y ∈ x :: looks, y.now.nanos ≤ first.look.now.nanos + s.timeout.nanos := by
      intro first rest hf
      refine hbudget first (rest ++ now.after.turns s looks) ?_
      rw [List.append_cons, hf, List.cons_append]
    obtain ⟨hscheduled, hstands⟩ := h.poll hpoll fun first rest hf =>
      hfirst first rest (hnow ▸ hf) x (List.mem_cons_self ..)
    rw [← hnow] at hscheduled hstands
    rcases List.cons_eq_append_iff.mp hturns with ⟨rfl, hhead⟩ | ⟨before, rfl, htail⟩
    · obtain ⟨rfl, -⟩ := List.cons.inj hhead
      rw [List.append_nil]
      exact hscheduled
    · rw [List.append_cons]
      refine ih hstands (fun t ht => hfine t (List.mem_cons_of_mem _ ht)) ?_ htail
      intro first rest hf y hy
      rw [List.append_assoc, List.singleton_append] at hf
      exact hbudget first rest hf y (List.mem_cons_of_mem _ hy)

/-- Attempts back to back begin with the first, so none and one are the same. -/
theorem turns_immediate (s : Strategy) (e : Episode) (looks : List Look) :
    e.turns { s with immediate := 0 } looks = e.turns { s with immediate := 1 } looks := by
  have hpoll (e : Episode) (x : Look) :
      e.turn { s with immediate := 0 } x = e.turn { s with immediate := 1 } x := by
    have hburst : Strategy.burst { s with immediate := 0 } =
        Strategy.burst { s with immediate := 1 } := rfl
    rw [Episode.turn, Episode.turn, Episode.poll_congr hburst rfl]
  induction looks generalizing e with
  | nil => rfl
  | cons x looks ih => rw [Episode.turns, Episode.turns, hpoll, ih]

/-- In every episode of polls within the budget, none of which leaves the range of the clock, each
poll does what the schedule of the strategy asks, whatever is drawn; and a strategy without attempts
back to back is the strategy with one. -/
theorem scheduled_run (s : Strategy) (looks : List Look)
    (hbudget : ∀ first ∈ looks.head?, ∀ x ∈ looks,
      x.now.nanos ≤ first.now.nanos + s.timeout.nanos)
    (hfine : ∀ t ∈ (Episode.start s).turns s looks, t.answer.isOk) :
    (∀ earlier t later, (Episode.start s).turns s looks = earlier ++ t :: later →
      Scheduled s earlier t) ∧
    (Episode.start { s with immediate := 0 }).turns { s with immediate := 0 } looks =
      (Episode.start { s with immediate := 1 }).turns { s with immediate := 1 } looks := by
  refine ⟨fun earlier t later hturns => ?_, turns_immediate s _ looks⟩
  refine (stands_start s).turns hfine ?_ hturns
  intro first rest hf x hx
  cases looks with
  | nil => exact absurd hx List.not_mem_nil
  | cons y looks =>
    obtain ⟨rfl, -⟩ := List.cons.inj hf
    exact hbudget y rfl x hx

/-- Two attempts back to back, then drawn delays of up to 4, 8, 10, 10, … seconds, for a minute. -/
def hurried : Strategy where
  immediate := 2
  delay := .jittered { initial := .ofSeconds 4, factor := 2, cap := some (.ofSeconds 10) }
  timeout := .ofSeconds 60

/-- Polls at 1, 1, 2, 3 and 61 seconds: the third comes before the two seconds that the second has
drawn are over, the fourth when they are, and the last at the end of the budget. -/
def hurriedLooks : List Look :=
  [⟨⟨1 * nanosPerSecond, by decide⟩, 7⟩, ⟨⟨1 * nanosPerSecond, by decide⟩, 0⟩,
    ⟨⟨2 * nanosPerSecond, by decide⟩, 3⟩, ⟨⟨3 * nanosPerSecond, by decide⟩, nanosPerSecond⟩,
    ⟨⟨61 * nanosPerSecond, by decide⟩, 5⟩]

/-- All but the third are attempts. -/
theorem scheduled_hurried :
    (∀ first ∈ hurriedLooks.head?, ∀ x ∈ hurriedLooks,
      x.now.nanos ≤ first.now.nanos + hurried.timeout.nanos) ∧
    (∀ t ∈ (Episode.start hurried).turns hurried hurriedLooks, t.answer.isOk) ∧
    ((Episode.start hurried).turns hurried hurriedLooks).map Turn.isAttempt =
      [true, true, false, true, true] ∧
    ∀ earlier t later, (Episode.start hurried).turns hurried hurriedLooks = earlier ++ t :: later →
      Scheduled hurried earlier t :=
  ⟨by decide, by decide, by decide, (scheduled_run hurried hurriedLooks (by decide) (by decide)).1⟩

end Reconnect

end PacketTunnel
