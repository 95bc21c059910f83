import PacketTunnel.Proofs.ReconnectSchedule

/-!
# The end of an episode

A poll throttles because the budget is spent or because the delays have run out. Neither passes:
moments do not decrease, and delays do not come back, although polls may go on to write when the
next attempt is due. So a poll that throttles, or that is the last attempt, is the end of the
episode until a reset, which begins another one. Delays run out only for the policy that has none,
at the last of the attempts back to back.
-/

namespace PacketTunnel

namespace Delays

theorem next?_eq_none {d : Delays} {draw : Nat} : d.next? draw = Option.none ↔ d = none := by
  cases d with
  | none => exact ⟨fun _ => rfl, fun _ => rfl⟩
  | constant | exponential | jittered => exact ⟨fun h => (by cases h), fun h => (by cases h)⟩

theorem rest_eq_none {d : Delays} : d.rest = none ↔ d = none := by
  cases d with
  | none => exact ⟨fun _ => rfl, fun _ => rfl⟩
  | constant | exponential | jittered => exact ⟨fun h => (by cases h), fun h => (by cases h)⟩

end Delays

theorem Backoff.delays_eq_none {b : Backoff} : b.delays = .none ↔ b = .never := by
  cases b with
  | never => exact ⟨fun _ => rfl, fun _ => rfl⟩
  | constant | exponential | jittered => exact ⟨fun h => (by cases h), fun h => (by cases h)⟩

namespace Reconnect

variable {s : Strategy} {deadline now : Moment} {e opened after : Episode} {draw : Nat}
  {decision : Decision}

/-- How far an episode has come. -/
inductive Pace (s : Strategy) (e : Episode) : Prop where
  /-- Attempts are made back to back. -/
  | burst (h : e.attempts < s.burst) (hexhausted : e.exhausted = false)
  /-- The next attempt is planned. -/
  | planned (h : s.burst ≤ e.attempts) (hexhausted : e.exhausted = false)
      (hdelay : s.delay ≠ .never) {due : Moment} (hnext : e.nextAttempt = some due)
  /-- There is no delay, so the last attempt back to back was the last of all. -/
  | spent (h : e.attempts = s.burst) (hexhausted : e.exhausted = true) (hdelay : s.delay = .never)

/-- An episode that goes by a strategy. -/
structure Paced (s : Strategy) (e : Episode) : Prop where
  /-- There are no delays if the policy gives none, and only then. -/
  delays : e.delays = .none ↔ s.delay = .never
  /-- It has come to some point. -/
  pace : Pace s e

theorem paced_start (s : Strategy) : Paced s (.start s) :=
  ⟨Backoff.delays_eq_none, .burst s.burst_pos rfl⟩

/-- What a poll comes to if the budget ends at a deadline. -/
inductive Polled (s : Strategy) (deadline now : Moment) (e : Episode) :
    Episode → Decision → Prop where
  /-- The budget is spent. -/
  | late (h : deadline.nanos < now.nanos) {after : Episode}
      (hattempts : after.attempts = e.attempts) (hafter : after.exhausted = e.exhausted) :
    Polled s deadline now e after .throttle
  /-- The last attempt was made. -/
  | spent (h : e.exhausted = true) (hburst : e.attempts = s.burst) :
    Polled s deadline now e e .throttle
  /-- The next attempt is not due yet. -/
  | waits (hin : now.nanos ≤ deadline.nanos) (hexhausted : e.exhausted = false)
      (hburst : s.burst ≤ e.attempts) (hdelay : s.delay ≠ .never) (due : Moment) :
    Polled s deadline now e e (.wait due)
  /-- Another attempt, which is not the last. -/
  | again (hin : now.nanos ≤ deadline.nanos) (hexhausted : e.exhausted = false) {after : Episode}
      (hattempts : after.attempts = e.attempts + 1) (hafter : after.exhausted = false)
      (hmore : e.attempts + 1 < s.burst ∨ s.delay ≠ .never) :
    Polled s deadline now e after .reconnect
  /-- The last attempt. -/
  | last (hin : now.nanos ≤ deadline.nanos) (hexhausted : e.exhausted = false) {after : Episode}
      (hattempts : after.attempts = e.attempts + 1) (hafter : after.exhausted = true)
      (hburst : e.attempts + 1 = s.burst) (hdelay : s.delay = .never) :
    Polled s deadline now e after .reconnectExhausted

/-- Without delays left or within no budget, a poll throttles. -/
theorem Polled.of_over (h : Polled s deadline now e after decision)
    (hover : e.exhausted = true ∨ deadline.nanos < now.nanos) :
    decision = .throttle ∧ after.attempts = e.attempts ∧ after.exhausted = e.exhausted := by
  have hin (hin : now.nanos ≤ deadline.nanos) (hexhausted : e.exhausted = false) : False :=
    hover.elim (Bool.eq_false_iff.mp hexhausted) (Nat.not_lt.mpr hin)
  cases h with
  | late _ hattempts hafter => exact ⟨rfl, hattempts, hafter⟩
  | spent => exact ⟨rfl, rfl, rfl⟩
  | waits hle hexhausted => exact absurd hexhausted (hin hle)
  | again hle hexhausted => exact absurd hexhausted (hin hle)
  | last hle hexhausted => exact absurd hexhausted (hin hle)

/-- A poll that throttles, or that is the last attempt, has no delays behind it or is late. -/
theorem Polled.over (h : Polled s deadline now e after decision)
    (hend : decision = .throttle ∨ decision = .reconnectExhausted) :
    after.exhausted = true ∨ deadline.nanos < now.nanos := by
  cases h with
  | late hlate => exact .inr hlate
  | spent hexhausted => exact .inl hexhausted
  | waits => exact hend.elim (fun h => (by cases h)) fun h => (by cases h)
  | again => exact hend.elim (fun h => (by cases h)) fun h => (by cases h)
  | last hin hexhausted hattempts hafter => exact .inl hafter

@[simp] theorem Episode.attempts_dueAtOnce (s : Strategy) (now : Moment) (e : Episode) :
    (e.dueAtOnce s now).attempts = e.attempts := by
  rw [dueAtOnce]
  split <;> rfl

@[simp] theorem Episode.exhausted_dueAtOnce (s : Strategy) (now : Moment) (e : Episode) :
    (e.dueAtOnce s now).exhausted = e.exhausted := by
  rw [dueAtOnce]
  split <;> rfl

@[simp] theorem Episode.deadline_dueAtOnce (s : Strategy) (now : Moment) (e : Episode) :
    (e.dueAtOnce s now).deadline = e.deadline := by
  rw [dueAtOnce]
  split <;> rfl

/-- Once the budget is spent, polls throttle, and only write when the next attempt is due. -/
theorem Episode.poll_of_late (hopen : e.openBudget s now = some opened)
    (hdeadline : opened.deadline = some deadline) (hlate : deadline.nanos < now.nanos) :
    e.poll s draw now = (opened.dueAtOnce s now, .ok .throttle) := by
  have hover : (opened.dueAtOnce s now).isOver now = true := by
    rw [isOver, deadline_dueAtOnce, hdeadline, Bool.or_eq_true]
    exact .inr (decide_eq_true hlate)
  rw [poll, hopen]
  simp only [hover, ite_true]

/-- When an attempt is due is nothing that the pace depends on before the last one back to back. -/
theorem Paced.dueAtOnce (h : Paced s e) (now : Moment) : Paced s (e.dueAtOnce s now) := by
  rcases Nat.lt_or_ge e.attempts s.burst with hlt | hle
  · rw [Episode.dueAtOnce_of_lt hlt]
    cases h.pace with
    | burst hlt hexhausted => exact ⟨h.delays, .burst hlt hexhausted⟩
    | planned hle => exact absurd hlt (Nat.not_lt.mpr hle)
    | spent heq => exact absurd hlt (Nat.not_lt.mpr (Nat.le_of_eq heq.symm))
  · rw [Episode.dueAtOnce_of_le hle]
    exact h

/-- A budget that opens changes nothing about the pace. -/
theorem Paced.withDeadline (h : Paced s e) (deadline : Option Moment) :
    Paced s { e with deadline } := by
  refine ⟨h.delays, ?_⟩
  cases h.pace with
  | burst hlt hexhausted => exact .burst hlt hexhausted
  | planned hle hexhausted hdelay hnext => exact .planned hle hexhausted hdelay hnext
  | spent heq hexhausted hdelay => exact .spent heq hexhausted hdelay

/-- An attempt keeps the pace. -/
theorem Paced.attempted (h : Paced s e) {before : Episode} (hbefore : before.attempts = e.attempts)
    (hopen : before.exhausted = false) (hexhausted : e.exhausted = false)
    (hmore : e.attempts < s.burst ∨ s.delay ≠ .never) (hin : now.nanos ≤ deadline.nanos)
    (hattempted : Episode.Attempted s draw now e after (.ok decision)) :
    Polled s deadline now before after decision ∧ Paced s after ∧ after.deadline = e.deadline := by
  have hcount : before.attempts + 1 = e.attempts + 1 := congrArg (· + 1) hbefore
  cases hattempted with
  | backToBack hlt =>
    exact ⟨.again hin hopen hcount.symm hexhausted (.inl (hcount ▸ hlt)),
      ⟨h.delays, .burst hlt hexhausted⟩, rfl⟩
  | @planned hle delay rest due hnext hdue =>
    have hsome : e.delays ≠ .none := fun hnone =>
      Option.some_ne_none _ (hnext.symm.trans (Delays.next?_eq_none.mpr hnone))
    have hdelay : s.delay ≠ .never := mt h.delays.mpr hsome
    have hrest : rest = .none ↔ s.delay = .never := by
      rw [Delays.eq_rest_of_next? hnext, Delays.rest_eq_none]
      exact h.delays
    exact ⟨.again hin hopen hcount.symm hexhausted (.inr hdelay),
      ⟨hrest, .planned hle hexhausted hdelay rfl⟩, rfl⟩
  | last hle hnext =>
    have hdelay : s.delay = .never := h.delays.mp (Delays.next?_eq_none.mp hnext)
    have hburst : e.attempts + 1 = s.burst :=
      Nat.le_antisymm (hmore.resolve_right (not_not_intro hdelay)) hle
    exact ⟨.last hin hopen hcount.symm rfl (hcount.trans hburst) hdelay,
      ⟨h.delays, .spent hburst rfl hdelay⟩, rfl⟩

/-- A poll has one of five outcomes, each of which keeps the pace. -/
theorem Paced.poll (h : Paced s e)
    (hopen : e.openBudget s now = some { e with deadline := some deadline })
    (hpoll : e.poll s draw now = (after, .ok decision)) :
    Polled s deadline now e after decision ∧ Paced s after ∧ after.deadline = some deadline := by
  rcases Nat.lt_or_ge deadline.nanos now.nanos with hlate | hin
  · rw [Episode.poll_of_late hopen rfl hlate] at hpoll
    obtain ⟨rfl, hanswer⟩ := Prod.mk.inj hpoll
    obtain rfl := Except.ok.inj hanswer
    exact ⟨.late hlate (Episode.attempts_dueAtOnce ..) (Episode.exhausted_dueAtOnce ..),
      (h.withDeadline _).dueAtOnce now, Episode.deadline_dueAtOnce ..⟩
  -- An episode that has made attempts had its budget opened before.
  have hdeadline (hle : s.burst ≤ e.attempts) : e.deadline = some deadline := by
    have hsome : ¬ (e.attempts = 0 ∧ e.deadline = none) := fun hnone =>
      Nat.ne_of_gt (Nat.lt_of_lt_of_le s.burst_pos hle) hnone.1
    rw [Episode.openBudget, if_neg hsome] at hopen
    exact congrArg Episode.deadline (Option.some.inj hopen)
  cases h.pace with
  | burst hlt hexhausted =>
    rw [Episode.poll_of_lt hlt hopen rfl hin rfl hexhausted] at hpoll
    have hattempted := Episode.attempted_attempt s draw now
      { e with deadline := some deadline, nextAttempt := some now }
    rw [hpoll] at hattempted
    have hpaced : Paced s { e with deadline := some deadline, nextAttempt := some now } :=
      ⟨h.delays, .burst hlt hexhausted⟩
    exact hpaced.attempted rfl hexhausted hexhausted (.inl hlt) hin hattempted
  | @planned hle hexhausted hdelay due hnext =>
    rw [Episode.poll_of_le hle (hdeadline hle) hin hexhausted hnext] at hpoll
    by_cases hwait : now.nanos < due.nanos
    · rw [if_pos hwait] at hpoll
      obtain ⟨rfl, hanswer⟩ := Prod.mk.inj hpoll
      obtain rfl := Except.ok.inj hanswer
      exact ⟨.waits hin hexhausted hle hdelay due, h, hdeadline hle⟩
    · rw [if_neg hwait] at hpoll
      have hattempted := Episode.attempted_attempt s draw now e
      rw [hpoll] at hattempted
      obtain ⟨hpolled, hkept, hsame⟩ :=
        h.attempted rfl hexhausted hexhausted (.inr hdelay) hin hattempted
      exact ⟨hpolled, hkept, hsame.trans (hdeadline hle)⟩
  | spent heq hexhausted hdelay =>
    have hle : s.burst ≤ e.attempts := Nat.le_of_eq heq.symm
    rw [Episode.poll_of_exhausted hle (hdeadline hle) hexhausted] at hpoll
    obtain ⟨rfl, hanswer⟩ := Prod.mk.inj hpoll
    obtain rfl := Except.ok.inj hanswer
    exact ⟨.spent hexhausted heq, h, hdeadline hle⟩

theorem map_look_turns (e : Episode) (looks : List Look) :
    (e.turns s looks).map Turn.look = looks := by
  induction looks generalizing e with
  | nil => rfl
  | cons x looks ih => exact congrArg (x :: ·) (ih _)

theorem length_turns (e : Episode) (looks : List Look) :
    (e.turns s looks).length = looks.length := by
  rw [← List.length_map Turn.look, map_look_turns]

theorem Episode.openBudget_eq_of_deadline (h : e.deadline = some deadline) (now : Moment) :
    e.openBudget s now = some { e with deadline := some deadline } := by
  rw [openBudget_of_deadline h, ← h]

/-- A poll that is made for the record has one of five outcomes, each of which keeps the pace. -/
theorem Paced.turn (h : Paced s e) {x : Look}
    (hopen : e.openBudget s x.now = some { e with deadline := some deadline })
    (hfine : (e.turn s x).answer.isOk) : ∃ decision, (e.turn s x).answer = .ok decision ∧
      Polled s deadline x.now e (e.turn s x).after decision ∧
      Paced s (e.turn s x).after ∧ (e.turn s x).after.deadline = some deadline := by
  obtain ⟨decision, hanswer⟩ := exists_ok hfine
  exact ⟨decision, hanswer, h.poll hopen (Prod.ext rfl hanswer)⟩

/-- In an episode of polls, each goes by the strategy, and those behind it go on from there. -/
theorem Paced.turns {looks : List Look} (h : Paced s e)
    (hopen : ∀ x ∈ looks.head?, e.openBudget s x.now = some { e with deadline := some deadline })
    (hfine : ∀ t ∈ e.turns s looks, t.answer.isOk) {earlier later : List Turn} {t : Turn}
    (hturns : e.turns s looks = earlier ++ t :: later) :
    (∃ decision, t.answer = .ok decision ∧
      Polled s deadline t.look.now t.before t.after decision) ∧
    Paced s t.after ∧ t.after.deadline = some deadline ∧
    later = t.after.turns s (later.map Turn.look) := by
  induction looks generalizing e earlier with
  | nil => exact absurd hturns.symm (List.append_ne_nil_of_right_ne_nil _ (List.cons_ne_nil _ _))
  | cons x looks ih =>
    rw [Episode.turns] at hfine hturns
    obtain ⟨decision, hanswer, hpolled, hkept, hdeadline⟩ :=
      h.turn (hopen x rfl) (hfine _ (List.mem_cons_self ..))
    rcases List.cons_eq_append_iff.mp hturns with ⟨rfl, hhead⟩ | ⟨earlier, rfl, htail⟩
    · obtain ⟨rfl, rfl⟩ := List.cons.inj hhead
      exact ⟨⟨decision, hanswer, hpolled⟩, hkept, hdeadline, by rw [map_look_turns]⟩
    · exact ih hkept (fun y _ => Episode.openBudget_eq_of_deadline hdeadline y.now)
        (fun t ht => hfine t (List.mem_cons_of_mem _ ht)) htail

/-- Nothing but a reset helps: the last attempt was made, or the budget is spent whenever a poll is
still made. -/
def Over (deadline : Moment) (looks : List Look) (e : Episode) : Prop :=
  e.exhausted = true ∨ ∀ x ∈ looks, deadline.nanos < x.now.nanos

/-- From then on polls throttle, and no attempt is counted. -/
theorem Paced.turns_of_over {looks : List Look} (h : Paced s e)
    (hdeadline : e.deadline = some deadline) (hover : Over deadline looks e)
    (hfine : ∀ t ∈ e.turns s looks, t.answer.isOk) {t : Turn} (ht : t ∈ e.turns s looks) :
    t.answer = .ok .throttle ∧ t.after.attempts = e.attempts := by
  induction looks generalizing e with
  | nil => exact absurd ht List.not_mem_nil
  | cons x looks ih =>
    obtain ⟨decision, hanswer, hpolled, hkept, hsame⟩ :=
      h.turn (Episode.openBudget_eq_of_deadline hdeadline x.now) (hfine _ (List.mem_cons_self ..))
    have hnow := hover.imp_right fun hlate => hlate x (List.mem_cons_self ..)
    obtain ⟨rfl, hattempts, hexhausted⟩ := hpolled.of_over hnow
    rcases List.mem_cons.mp ht with rfl | ht
    · exact ⟨hanswer, hattempts⟩
    · have hlater : Over deadline looks (e.turn s x).after :=
        hover.imp hexhausted.trans fun hlate y hy => hlate y (List.mem_cons_of_mem _ hy)
      obtain ⟨hthrottle, hcount⟩ :=
        ih hkept hsame hlater (fun t ht => hfine t (List.mem_cons_of_mem _ ht)) ht
      exact ⟨hthrottle, hcount.trans hattempts⟩

/-- What the poll makes the controller do. -/
def Turn.calls (t : Turn) : List Call :=
  match t.answer with
  | .ok decision => decision.calls
  | .error _ => []

/-- Whether the poll is the last attempt. -/
def Turn.isLast (t : Turn) : Bool :=
  match t.answer with
  | .ok .reconnectExhausted => true
  | _ => false

theorem Turn.isLast_iff (t : Turn) : t.isLast = true ↔ t.answer = .ok .reconnectExhausted := by
  unfold Turn.isLast
  split
  next h => exact ⟨fun _ => h, fun _ => rfl⟩
  next h => exact ⟨fun hfalse => absurd hfalse Bool.false_ne_true, fun hlast => absurd hlast h⟩

/-- The end of an episode: the poll throttles, or it is the last attempt. -/
def Turn.IsEnd (t : Turn) : Prop := t.answer = .ok .throttle ∨ t.answer = .ok .reconnectExhausted

/-- Without delays, what poll number `i` within the budget decides, counted from zero. -/
def Strategy.undelayed (s : Strategy) (i : Nat) : Decision :=
  if i + 1 < s.burst then .reconnect
  else if i + 1 = s.burst then .reconnectExhausted
  else .throttle

/-- Without delays, the attempts are those back to back. -/
theorem Polled.of_never (h : Polled s deadline now e after decision) (hdelay : s.delay = .never)
    (hin : now.nanos ≤ deadline.nanos) {i : Nat} (hcount : e.attempts = min i s.burst) :
    decision = s.undelayed i ∧ after.attempts = min (i + 1) s.burst := by
  unfold Strategy.undelayed
  cases h with
  | late hlate => exact absurd hlate (Nat.not_lt.mpr hin)
  | waits _ _ _ hsome => exact absurd hdelay hsome
  | spent _ hburst =>
    have hle : s.burst ≤ i := by omega
    rw [if_neg (by omega), if_neg (by omega)]
    exact ⟨rfl, by omega⟩
  | again _ _ hattempts _ hmore =>
    have hlt : e.attempts + 1 < s.burst := hmore.resolve_right (not_not_intro hdelay)
    rw [if_pos (by omega)]
    exact ⟨rfl, by omega⟩
  | last _ _ hattempts _ hburst =>
    rw [if_neg (by omega), if_pos (by omega)]
    exact ⟨rfl, by omega⟩

/-- Without delays, poll number `i` tries again if there are attempts left back to back. -/
theorem Strategy.count_calls_undelayed (s : Strategy) (i : Nat) :
    min i s.burst + (s.undelayed i).calls.count .reconnecting = min (i + 1) s.burst := by
  unfold Strategy.undelayed
  split
  · rw [Decision.calls, List.count_singleton_self]
    omega
  · split
    · have hcalls : Decision.reconnectExhausted.calls.count .reconnecting = 1 := rfl
      rw [hcalls]
      omega
    · have hcalls : Decision.throttle.calls.count .reconnecting = 0 := rfl
      rw [hcalls]
      omega

theorem Strategy.calls_undelayed (s : Strategy) (i : Nat) :
    (s.undelayed i).calls =
      if i + 1 < s.burst then [.reconnecting]
      else if i + 1 = s.burst then [.reconnecting, .throttling]
      else [.throttling] := by
  rw [Strategy.undelayed, apply_ite Decision.calls, apply_ite Decision.calls]
  rfl

/-- Without delays, polls within the budget decide by their number alone. -/
theorem Paced.turns_of_never {looks : List Look} (h : Paced s e) (hdelay : s.delay = .never)
    (hopen : ∀ x ∈ looks.head?, e.openBudget s x.now = some { e with deadline := some deadline })
    (hfine : ∀ t ∈ e.turns s looks, t.answer.isOk)
    (hin : ∀ x ∈ looks, x.now.nanos ≤ deadline.nanos) {i : Nat}
    (hcount : e.attempts = min i s.burst) :
    (∀ (k : Nat) (t : Turn), (e.turns s looks)[k]? = some t →
      t.answer = .ok (s.undelayed (i + k))) ∧
    min i s.burst + ((e.turns s looks).flatMap Turn.calls).count .reconnecting =
      min (i + looks.length) s.burst := by
  induction looks generalizing e i with
  | nil => exact ⟨fun k t hk => (by cases hk), rfl⟩
  | cons x looks ih =>
    rw [Episode.turns] at hfine ⊢
    obtain ⟨decision, hanswer, hpolled, hkept, hdeadline⟩ :=
      h.turn (hopen x rfl) (hfine _ (List.mem_cons_self ..))
    obtain ⟨rfl, hafter⟩ := hpolled.of_never hdelay (hin x (List.mem_cons_self ..)) hcount
    obtain ⟨hdecisions, hcalls⟩ := ih hkept
      (fun y _ => Episode.openBudget_eq_of_deadline hdeadline y.now)
      (fun t ht => hfine t (List.mem_cons_of_mem _ ht))
      (fun y hy => hin y (List.mem_cons_of_mem _ hy)) hafter
    have hfirst : (e.turn s x).calls = (s.undelayed i).calls := by rw [Turn.calls, hanswer]
    refine ⟨fun k t hk => ?_, ?_⟩
    · cases k with
      | zero =>
        obtain rfl := Option.some.inj hk
        exact hanswer
      | succ k =>
        rw [← Nat.succ_add_eq_add_succ]
        exact hdecisions k t hk
    · rw [List.flatMap_cons, List.count_append, hfirst, ← Nat.add_assoc, s.count_calls_undelayed,
        hcalls, List.length_cons, Nat.succ_add_eq_add_succ]

/-- What holds of the polls of one episode, from its first on, if they are made in order. -/
structure Final (s : Strategy) (record : List Turn) : Prop where
  /-- A poll later than the budget, counted from the first poll, throttles. -/
  late : ∀ first ∈ record.head?, ∀ t ∈ record,
    first.look.now.nanos + s.timeout.nanos < t.look.now.nanos → t.answer = .ok .throttle
  /-- Once a poll throttles or is the last attempt, later polls throttle, and none of them counts an
  attempt. -/
  forGood : ∀ earlier t later, record = earlier ++ t :: later → t.IsEnd →
    ∀ t' ∈ later, t'.answer = .ok .throttle ∧ t'.after.attempts = t.after.attempts
  /-- There is one last attempt at most. -/
  once : (record.filter Turn.isLast).length ≤ 1
  /-- An attempt is the last one if there are no delays and it is the last back to back. -/
  last : ∀ t ∈ record, t.answer = .ok .reconnectExhausted ↔
    t.isAttempt ∧ s.delay = .never ∧ t.after.attempts = s.burst
  /-- Without delays, polls within the budget try again until the last attempt back to back, which
  throttles as well, and only throttle from then on. -/
  never : s.delay = .never → (∀ first ∈ record.head?, ∀ t ∈ record,
      t.look.now.nanos ≤ first.look.now.nanos + s.timeout.nanos) →
    (∀ i t, record[i]? = some t → t.calls =
      if i + 1 < s.burst then [.reconnecting]
      else if i + 1 = s.burst then [.reconnecting, .throttling]
      else [.throttling]) ∧
    (record.flatMap Turn.calls).count .reconnecting = min record.length s.burst

/-- The decision of a poll says whether it is an attempt, and whether that is the last one. -/
theorem Polled.isAttempt_iff (h : Polled s deadline now e after decision) :
    decision = .reconnectExhausted ↔
      decision.isAttempt = true ∧ s.delay = .never ∧ after.attempts = s.burst := by
  cases h with
  | late => exact ⟨fun h => (by cases h), fun h => absurd h.1 Bool.false_ne_true⟩
  | spent => exact ⟨fun h => (by cases h), fun h => absurd h.1 Bool.false_ne_true⟩
  | waits => exact ⟨fun h => (by cases h), fun h => absurd h.1 Bool.false_ne_true⟩
  | again _ _ hattempts _ hmore =>
    refine ⟨fun h => (by cases h), fun h => ?_⟩
    rcases hmore with hlt | hsome
    · exact absurd (hattempts.symm.trans h.2.2) (Nat.ne_of_lt hlt)
    · exact absurd h.2.1 hsome
  | last _ _ hattempts _ hburst hdelay =>
    exact ⟨fun _ => ⟨rfl, hdelay, hattempts.trans hburst⟩, fun _ => rfl⟩

/-- The polls of an episode are made in order, none of them leaves the range of the clock, and the
first one opens a budget that ends at a deadline. -/
structure Dated (s : Strategy) (deadline : Moment) (looks : List Look) : Prop where
  /-- The first poll finds the budget closed and opens it. -/
  opens : ∀ x ∈ looks.head?, (Episode.start s).openBudget s x.now =
    some { Episode.start s with deadline := some deadline }
  /-- The deadline is counted from the first poll. -/
  ends : ∀ x ∈ looks.head?, deadline.nanos = x.now.nanos + s.timeout.nanos
  /-- The polls are made in order. -/
  ordered : looks.Pairwise fun x y => x.now.nanos ≤ y.now.nanos
  /-- They all have an answer. -/
  fine : ∀ t ∈ (Episode.start s).turns s looks, t.answer.isOk

/-- The first poll dates an episode. -/
theorem exists_dated {looks : List Look}
    (horder : looks.Pairwise fun x y => x.now.nanos ≤ y.now.nanos)
    (hfine : ∀ t ∈ (Episode.start s).turns s looks, t.answer.isOk) :
    ∃ deadline, Dated s deadline looks := by
  cases looks with
  | nil =>
    exact ⟨⟨0, by decide⟩, fun x hx => (by cases hx), fun x hx => (by cases hx), horder, hfine⟩
  | cons x looks =>
    have hopen : (Episode.start s).openBudget s x.now = (x.now.after? s.timeout).map
        fun deadline => { Episode.start s with deadline := some deadline } := by
      rw [Episode.openBudget, if_pos ⟨rfl, rfl⟩]
    cases hdeadline : x.now.after? s.timeout with
    | none =>
      obtain ⟨decision, hanswer⟩ := exists_ok (hfine _ (List.mem_cons_self ..))
      have hpoll : ((Episode.start s).poll s x.draw x.now).2 = .error .momentOutOfRange := by
        rw [Episode.poll, hopen, hdeadline]
        rfl
      exact absurd (hpoll.symm.trans hanswer) (by simp)
    | some deadline =>
      rw [hdeadline] at hopen
      refine ⟨deadline, fun y hy => ?_, fun y hy => ?_, horder, hfine⟩
      · obtain rfl := Option.some.inj hy
        exact hopen
      · obtain rfl := Option.some.inj hy
        exact (Moment.after?_eq_some.mp hdeadline).symm

namespace Dated

variable {looks : List Look} (h : Dated s deadline looks)

include h

theorem deadline_eq {first : Turn} (hfirst : first ∈ ((Episode.start s).turns s looks).head?) :
    deadline.nanos = first.look.now.nanos + s.timeout.nanos := by
  refine h.ends first.look ?_
  rw [← map_look_turns (s := s) (Episode.start s) looks, List.head?_map]
  exact Option.mem_map_of_mem _ hfirst

/-- Each poll has one of the outcomes of a poll. -/
theorem polled {t : Turn} (ht : t ∈ (Episode.start s).turns s looks) : ∃ decision,
    t.answer = .ok decision ∧ Polled s deadline t.look.now t.before t.after decision := by
  obtain ⟨earlier, later, hturns⟩ := List.append_of_mem ht
  exact ((paced_start s).turns h.opens h.fine hturns).1

/-- The end of an episode is for good. -/
theorem forGood {earlier later : List Turn} {t : Turn}
    (hturns : (Episode.start s).turns s looks = earlier ++ t :: later) (hend : t.IsEnd) {t' : Turn}
    (ht' : t' ∈ later) :
    t'.answer = .ok .throttle ∧ t'.after.attempts = t.after.attempts := by
  obtain ⟨⟨decision, hanswer, hpolled⟩, hkept, hsame, hlater⟩ :=
    (paced_start s).turns h.opens h.fine hturns
  have hover := hpolled.over (hend.imp (fun hend => Except.ok.inj (hanswer.symm.trans hend))
    fun hend => Except.ok.inj (hanswer.symm.trans hend))
  -- The polls behind it are not before it.
  have hlooks := map_look_turns (s := s) (Episode.start s) looks
  rw [hturns, List.map_append, List.map_cons] at hlooks
  have horder := h.ordered
  rw [← hlooks, List.pairwise_append, List.pairwise_cons] at horder
  have hgone : Over deadline (later.map Turn.look) t.after :=
    hover.imp_right fun hlate x hx => Nat.lt_of_lt_of_le hlate (horder.2.1.1 x hx)
  rw [hlater] at ht' hturns
  refine hkept.turns_of_over hsame hgone (fun u hu => h.fine u ?_) ht'
  rw [hturns]
  exact List.mem_append_right _ (List.mem_cons_of_mem _ hu)

/-- Behind a last attempt there is no other. -/
theorem once : (((Episode.start s).turns s looks).filter Turn.isLast).length ≤ 1 := by
  cases hlast : ((Episode.start s).turns s looks).filter Turn.isLast with
  | nil => exact Nat.zero_le 1
  | cons t rest =>
    obtain ⟨earlier, later, hturns, -, ht, rfl⟩ := List.filter_eq_cons_iff.mp hlast
    have hnone : later.filter Turn.isLast = [] := by
      refine List.filter_eq_nil_iff.mpr fun t' ht' => ?_
      rw [Turn.isLast, (h.forGood hturns (.inr (t.isLast_iff.mp ht)) ht').1]
      exact Bool.false_ne_true
    rw [hnone]
    exact Nat.le_refl 1

/-- Polls within the budget of the first are not behind the deadline. -/
theorem within (hin : ∀ first ∈ ((Episode.start s).turns s looks).head?,
      ∀ t ∈ (Episode.start s).turns s looks,
      t.look.now.nanos ≤ first.look.now.nanos + s.timeout.nanos) {x : Look} (hx : x ∈ looks) :
    x.now.nanos ≤ deadline.nanos := by
  rw [← map_look_turns (s := s) (Episode.start s) looks] at hx
  obtain ⟨t, ht, rfl⟩ := List.mem_map.mp hx
  cases hturns : (Episode.start s).turns s looks with
  | nil => exact absurd (hturns ▸ ht) List.not_mem_nil
  | cons first rest =>
    have hfirst : first ∈ ((Episode.start s).turns s looks).head? := by
      rw [hturns]
      rfl
    rw [h.deadline_eq hfirst]
    exact hin first hfirst t ht

theorem final : Final s ((Episode.start s).turns s looks) where
  late first hfirst t ht hlate := by
    obtain ⟨decision, hanswer, hpolled⟩ := h.polled ht
    rw [hanswer, (hpolled.of_over (.inr (h.deadline_eq hfirst ▸ hlate))).1]
  forGood earlier t later hturns hend t' ht' := h.forGood hturns hend ht'
  once := h.once
  last t ht := by
    obtain ⟨decision, hanswer, hpolled⟩ := h.polled ht
    rw [Turn.isAttempt, hanswer, ← hpolled.isAttempt_iff]
    exact ⟨Except.ok.inj, congrArg Except.ok⟩
  never hdelay hin := by
    have hnone : (Episode.start s).attempts = min 0 s.burst := (Nat.zero_min _).symm
    obtain ⟨hdecisions, hcalls⟩ :=
      (paced_start s).turns_of_never hdelay h.opens h.fine (fun x hx => h.within hin hx) hnone
    refine ⟨fun i t ht => ?_, ?_⟩
    · have hcalls : t.calls = (s.undelayed (0 + i)).calls := by rw [Turn.calls, hdecisions i t ht]
      rw [hcalls, Nat.zero_add, s.calls_undelayed]
    · rw [Nat.zero_min, Nat.zero_add, Nat.zero_add] at hcalls
      rw [hcalls, length_turns]

end Dated

/-- What the controller asks of an adaptor. -/
inductive Ask where
  /-- To poll. -/
  | poll (x : Look)
  /-- To forget the episode. -/
  | reset

/-- Do what the controller asks for, and keep the polls on record. -/
def Episode.serve (s : Strategy) (e : Episode) : List Ask → List Turn
  | [] => []
  | .poll x :: rest => e.turn s x :: (e.turn s x).after.serve s rest
  | .reset :: rest => (Episode.start s).serve s rest

theorem serve_polls (e : Episode) (looks : List Look) :
    e.serve s (looks.map .poll) = e.turns s looks := by
  induction looks generalizing e with
  | nil => rfl
  | cons x looks ih => exact congrArg (e.turn s x :: ·) (ih _)

/-- A reset forgets everything. -/
theorem serve_reset (e : Episode) (before rest : List Ask) :
    e.serve s (before ++ .reset :: rest) = e.serve s before ++ (Episode.start s).serve s rest := by
  induction before generalizing e with
  | nil => rfl
  | cons ask before ih =>
    cases ask with
    | poll x => exact congrArg (e.turn s x :: ·) (ih _)
    | reset => exact ih _

/-- Giving up is for good: in every episode, from the first poll of an adaptor or from a reset after
whatever else it was asked for, polls in order throttle once the budget is spent or the last attempt
was made, and a reset begins an episode like the first. -/
theorem final_run (s : Strategy) (before : List Ask) (looks : List Look)
    (horder : looks.Pairwise fun x y => x.now.nanos ≤ y.now.nanos)
    (hfine : ∀ t ∈ (Episode.start s).turns s looks, t.answer.isOk) :
    Final s ((Episode.start s).turns s looks) ∧
    (Episode.start s).serve s (looks.map .poll) = (Episode.start s).turns s looks ∧
    (Episode.start s).serve s (before ++ .reset :: looks.map .poll) =
      (Episode.start s).serve s before ++ (Episode.start s).turns s looks ∧
    ∀ rest, (Episode.start s).serve s (before ++ .reset :: rest) =
      (Episode.start s).serve s before ++ (Episode.start s).serve s rest := by
  obtain ⟨deadline, hdated⟩ := exists_dated horder hfine
  have hreset := serve_reset (s := s) (.start s) before
  exact ⟨hdated.final, serve_polls .., by rw [hreset, serve_polls], hreset⟩

/-- Two attempts back to back and none later, for half a minute. -/
def brisk : Strategy where
  immediate := 2
  delay := .never
  timeout := .ofSeconds 30

/-- After a reset, too, the first two polls try again, the second of them is the last attempt, and
the others throttle, the last of them when the budget is spent. -/
theorem final_brisk :
    (hurriedLooks.Pairwise fun x y => x.now.nanos ≤ y.now.nanos) ∧
    (∀ t ∈ (Episode.start brisk).turns brisk hurriedLooks, t.answer.isOk) ∧
    ((Episode.start brisk).turns brisk hurriedLooks).map Turn.calls =
      [[.reconnecting], [.reconnecting, .throttling], [.throttling], [.throttling], [.throttling]] ∧
    Final brisk ((Episode.start brisk).turns brisk hurriedLooks) ∧
    (Episode.start brisk).serve brisk (hurriedLooks.map .poll ++ .reset :: hurriedLooks.map .poll) =
      (Episode.start brisk).serve brisk (hurriedLooks.map .poll) ++
        (Episode.start brisk).turns brisk hurriedLooks := by
  have h := final_run brisk (hurriedLooks.map .poll) hurriedLooks (by decide) (by decide)
  exact ⟨by decide, by decide, by decide, h.1, h.2.2.1⟩

end Reconnect

end PacketTunnel
