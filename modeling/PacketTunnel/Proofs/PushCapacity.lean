import PacketTunnel.Proofs.QueueRun
import PacketTunnel.Proofs.UuidNumber
import PacketTunnel.Proofs.WindowWork

/-!
# How many pushes a window bears

A push answers the oldest slot, and if that leaves just one, the last slot is answered too, with the
request for more commands. So pushes with nothing between them use up a window in a way that its
size alone decides: every slot but the last serves one push, and a slot that is alone serves one as
well. What push number `i` of them does is given here in terms of the window that the first one
finds. The handlers that are called may post jobs, which run behind.
-/

namespace PacketTunnel.Ipc

variable {η ω : Type}

/-- A push that was posted. -/
structure Push (ω : Type) where
  /-- Its ticket. -/
  ticket : Nat
  /-- The endpoint that it tells of. -/
  endpoint : String
  /-- Who is told how it ended, if anybody is. -/
  observer : Option ω

/-- A push as a job with its ticket. -/
def Push.job (p : Push ω) : Nat × ServerJob η ω := (p.ticket, .push p.endpoint p.observer)

/-- The handler that is called with a reconnect, and the endpoint. -/
def ServerEffect.reconnected? : ServerEffect η ω → Option (η × String)
  | .answer handler (.reconnected endpoint) => some (handler, endpoint)
  | _ => none

namespace Window

/-- How many pushes a window of so many slots bears. The last slot is kept for the request, unless
it is the only one. -/
def capacity (slots : Nat) : Nat := if slots = 1 then 1 else slots - 1

/-- The slots that so many pushes leave. -/
def leftBy (slots : List (Slot η)) (pushes : Nat) : List (Slot η) :=
  if pushes < capacity slots.length then slots.drop pushes else []

/-- How push number `i` on a window of so many slots ends. -/
def resultAt (slots i : Nat) : Except Error Unit :=
  if i < capacity slots then .ok () else .error .bufferUnderflow

/-- The slot that push number `i` answers with the request: the last one, if just that one and the
slot of the push are left. -/
def requestAt (slots : List (Slot η)) (i : Nat) : Option (Slot η) :=
  if i + 2 = slots.length then slots.getLast? else none

/-- The slot that push number `i` answers with its endpoint. -/
def slotAt (slots : List (Slot η)) (i : Nat) : Option (Slot η) :=
  if i < capacity slots.length then slots[i]? else none

/-- What push number `i` does: the request comes before the reconnect. -/
def effectsAt (slots : List (Slot η)) (i : Nat) (p : Push ω) : List (ServerEffect η ω) :=
  (requestAt slots i).toList.map (.answer ·.handler .needBuffer) ++
    (slotAt slots i).toList.map (.answer ·.handler (.reconnected p.endpoint)) ++
    observation p.observer (resultAt slots.length i)

/-- The outcome of push number `i`. -/
def outcomeAt (slots i : Nat) (p : Push ω) : Outcome ServerResult :=
  ⟨p.ticket, .ok (.pushed (resultAt slots i))⟩

/-- The handlers that are called with a reconnect, each with its endpoint. -/
def reconnected (effects : List (ServerEffect η ω)) : List (η × String) :=
  effects.filterMap ServerEffect.reconnected?

/-- What one push does to a window. -/
structure OnePush (handling : Handling η ω) (slots : List (Slot η)) (endpoint : String)
    (observer : Option ω) : Prop where
  /-- Without slots it fails. Nobody but its observer is told, and nothing changes. -/
  underflow : slots = [] → worker handling (.push endpoint observer) slots =
    ⟨slots, observation observer (.error .bufferUnderflow), [],
      some (.pushed (.error .bufferUnderflow))⟩
  /-- The oldest slot is answered, and the others stay as they are. -/
  oldest : ∀ first rest, slots = first :: rest → rest.length ≠ 1 →
    worker handling (.push endpoint observer) slots =
      ⟨rest, .answer first.handler (.reconnected endpoint) :: observation observer (.ok ()),
        (handling first.handler (some (.reconnected endpoint))).posted,
        some (.pushed (.ok ()))⟩
  /-- Of two slots the other one is answered first, with the request. -/
  pair : ∀ first last, slots = [first, last] →
    worker handling (.push endpoint observer) slots =
      ⟨[], .answer last.handler .needBuffer :: .answer first.handler (.reconnected endpoint) ::
          observation observer (.ok ()),
        (handling last.handler (some .needBuffer)).posted ++
          (handling first.handler (some (.reconnected endpoint))).posted,
        some (.pushed (.ok ()))⟩
  /-- No push that succeeds leaves just one slot. -/
  never_one : (worker handling (.push endpoint observer) slots).result =
    some (.pushed (.ok ())) → (worker handling (.push endpoint observer) slots).state.length ≠ 1

/-- What a series of pushes comes to that finds these slots, with nothing between the pushes: the
slots that it leaves, what each push does and the outcomes. -/
structure Spent (slots : List (Slot η)) (pushes : List (Push ω)) (left : List (Slot η))
    (effects : List (List (ServerEffect η ω))) (outcomes : List (Outcome ServerResult)) :
    Prop where
  /-- As many pushes succeed as the window bears, the first ones; the others find nothing. -/
  outcomes_eq : outcomes = pushes.mapIdx (outcomeAt slots.length)
  /-- Each push answers the slot of its number, and the last that succeeds makes the request. -/
  effects_eq : effects = pushes.mapIdx (effectsAt slots)
  /-- The slots that are left stay in order, and none are left once the window is used up. -/
  left_eq : left = leftBy slots pushes.length
  /-- Slots are answered with the endpoints in the order in which they stand. -/
  reconnected_eq : reconnected effects.flatten =
    ((handlers slots).take (capacity slots.length)).zip (pushes.map (·.endpoint))
  /-- More commands are asked for once, unless the window has fewer than two slots. -/
  asks_eq : slots.length ≤ pushes.length + 1 →
    effects.flatten.countP ServerEffect.asks = if 2 ≤ slots.length then 1 else 0

/-- The first push leaves a window that bears one push less. -/
theorem capacity_leftBy (slots : List (Slot η)) :
    capacity (leftBy slots 1).length = capacity slots.length - 1 := by
  rw [leftBy]
  split
  · simp only [capacity, List.length_drop] at *
    grind
  · next h =>
    have hzero : capacity slots.length - 1 = 0 := by omega
    rw [hzero]
    rfl

/-- To push once and then `n` times is to push once more. -/
theorem leftBy_succ (slots : List (Slot η)) (n : Nat) :
    leftBy (leftBy slots 1) n = leftBy slots (n + 1) := by
  have hcapacity := capacity_leftBy slots
  rw [leftBy, hcapacity, leftBy, leftBy]
  by_cases h : n + 1 < capacity slots.length
  · rw [if_pos h, if_pos (show n < capacity slots.length - 1 by omega),
      if_pos (show 1 < capacity slots.length by omega), List.drop_drop, Nat.add_comm]
  · rw [if_neg h, if_neg (show ¬ n < capacity slots.length - 1 by omega)]

theorem resultAt_succ (slots : List (Slot η)) (i : Nat) :
    resultAt (leftBy slots 1).length i = resultAt slots.length (i + 1) := by
  rw [resultAt, resultAt, capacity_leftBy]
  congr 1
  simp only [eq_iff_iff]
  omega

theorem getElem?_leftBy {slots : List (Slot η)} {n i : Nat} (h : n < capacity slots.length) :
    (leftBy slots n)[i]? = slots[n + i]? := by
  rw [leftBy, if_pos h, List.getElem?_drop]

theorem slotAt_succ (slots : List (Slot η)) (i : Nat) :
    slotAt (leftBy slots 1) i = slotAt slots (i + 1) := by
  rw [slotAt, slotAt, capacity_leftBy]
  by_cases h : i + 1 < capacity slots.length
  · rw [if_pos h, if_pos (show i < capacity slots.length - 1 by omega),
      getElem?_leftBy (by omega), Nat.add_comm]
  · rw [if_neg h, if_neg (show ¬ i < capacity slots.length - 1 by omega)]

/-- The request comes with the last push that succeeds, so the first push only brings it closer. -/
theorem requestAt_succ (slots : List (Slot η)) (i : Nat) :
    requestAt (leftBy slots 1) i = requestAt slots (i + 1) := by
  rw [requestAt, requestAt]
  by_cases h : 1 < capacity slots.length
  · rw [leftBy, if_pos h, List.length_drop, List.getLast?_drop]
    have hlong : 2 < slots.length := by
      rw [capacity] at h
      split at h <;> omega
    rw [if_neg (show ¬ slots.length ≤ 1 by omega)]
    congr 1
    simp only [eq_iff_iff]
    omega
  · have hshort : slots.length ≤ 2 := by
      rw [capacity] at h
      split at h <;> omega
    rw [leftBy, if_neg h, if_neg (show ¬ i + 1 + 2 = slots.length by omega)]
    rfl

/-- What a push does behind another one, it does one place further on in the window before. -/
theorem effectsAt_leftBy (slots : List (Slot η)) :
    (effectsAt (leftBy slots 1) : Nat → Push ω → List (ServerEffect η ω)) =
      fun i => effectsAt slots (i + 1) := by
  funext i p
  rw [effectsAt, effectsAt, requestAt_succ, slotAt_succ, resultAt_succ]

theorem outcomeAt_leftBy (slots : List (Slot η)) :
    (outcomeAt (leftBy slots 1).length : Nat → Push ω → Outcome ServerResult) =
      fun i => outcomeAt slots.length (i + 1) := by
  funext i p
  rw [outcomeAt, outcomeAt, resultAt_succ]

section Sound

variable {handling : Handling η ω}

/-- A push does what its place in the window says if no handler breaks off. -/
theorem onePush (hsound : ∀ handler answer, (handling handler answer).broken = false)
    (slots : List (Slot η)) (endpoint : String) (observer : Option ω) :
    OnePush handling slots endpoint observer := by
  have hnil : worker handling (.push endpoint observer) [] =
      ⟨[], observation observer (.error .bufferUnderflow), [],
        some (.pushed (.error .bufferUnderflow))⟩ := rfl
  have holdest (first : Slot η) (rest : List (Slot η)) (hrest : rest.length ≠ 1) :
      worker handling (.push endpoint observer) (first :: rest) =
        ⟨rest, .answer first.handler (.reconnected endpoint) :: observation observer (.ok ()),
          (handling first.handler (some (.reconnected endpoint))).posted,
          some (.pushed (.ok ()))⟩ := by
    have hpush : push handling (first :: rest) endpoint =
        ((Progress.start rest).answer handling first.handler (.reconnected endpoint), .ok ()) := by
      rcases rest with _ | ⟨second, _ | ⟨third, rest⟩⟩
      · rfl
      · exact absurd rfl hrest
      · rfl
    simp only [worker, hpush, Progress.done, Progress.answer, Progress.start, hsound,
      Bool.false_eq_true, ite_false, List.nil_append, List.singleton_append]
  have hpair (first last : Slot η) :
      worker handling (.push endpoint observer) [first, last] =
        ⟨[], .answer last.handler .needBuffer :: .answer first.handler (.reconnected endpoint) ::
            observation observer (.ok ()),
          (handling last.handler (some .needBuffer)).posted ++
            (handling first.handler (some (.reconnected endpoint))).posted,
          some (.pushed (.ok ()))⟩ := by
    simp only [worker, push, Progress.done, Progress.answer, Progress.start, hsound,
      Bool.false_eq_true, ite_false, List.nil_append, List.cons_append]
  refine ⟨?_, ?_, ?_, ?_⟩
  · rintro rfl
    exact hnil
  · rintro first rest rfl hrest
    exact holdest first rest hrest
  · rintro first last rfl
    exact hpair first last
  · intro hresult
    rcases slots with _ | ⟨first, _ | ⟨second, _ | ⟨third, rest⟩⟩⟩
    · rw [hnil] at hresult
      cases hresult
    · rw [holdest first [] (fun h => by cases h)]
      exact fun h => by cases h
    · rw [hpair]
      exact fun h => by cases h
    · have hrest : (second :: third :: rest).length ≠ 1 := fun h => by cases h
      rw [holdest _ _ hrest]
      exact hrest

/-- The first push of a series. -/
theorem worker_push (hsound : ∀ handler answer, (handling handler answer).broken = false)
    (slots : List (Slot η)) (p : Push ω) :
    (worker handling (.push p.endpoint p.observer) slots).state = leftBy slots 1 ∧
      (worker handling (.push p.endpoint p.observer) slots).effects = effectsAt slots 0 p ∧
      (worker handling (.push p.endpoint p.observer) slots).result =
        some (.pushed (resultAt slots.length 0)) := by
  have h := onePush hsound slots p.endpoint p.observer
  match slots with
  | [] =>
    rw [h.underflow rfl]
    exact ⟨rfl, rfl, rfl⟩
  | [first] =>
    rw [h.oldest first [] rfl (fun h => by cases h)]
    exact ⟨rfl, rfl, rfl⟩
  | [first, last] =>
    rw [h.pair first last rfl]
    exact ⟨rfl, rfl, rfl⟩
  | first :: second :: third :: rest =>
    rw [h.oldest first _ rfl (fun h => by cases h)]
    refine ⟨?_, ?_, ?_⟩
    · simp [leftBy, capacity]
    · simp [effectsAt, requestAt, slotAt, resultAt, capacity]
    · simp [resultAt, capacity]

/-- Pushes that run one after the other do what their places in the window say. -/
theorem serial_pushes (hsound : ∀ handler answer, (handling handler answer).broken = false)
    (slots : List (Slot η)) (pushes : List (Push ω)) :
    SerialQueue.serial (worker handling) slots (pushes.map Push.job) =
      (leftBy slots pushes.length, (pushes.mapIdx (effectsAt slots)).flatten,
        pushes.mapIdx (outcomeAt slots.length)) := by
  induction pushes generalizing slots with
  | nil =>
    have hleft : leftBy slots 0 = slots := by
      rw [leftBy]
      split
      · rfl
      · next h =>
        rw [capacity] at h
        exact (List.eq_nil_of_length_eq_zero (by split at h <;> omega)).symm
    rw [List.length_nil, hleft]
    rfl
  | cons p rest ih =>
    obtain ⟨hstate, heffects, hresult⟩ := worker_push hsound slots p
    rw [List.map_cons, Push.job, SerialQueue.serial, hstate, heffects, hresult,
      ih (leftBy slots 1), leftBy_succ, effectsAt_leftBy, outcomeAt_leftBy, List.mapIdx_cons,
      List.mapIdx_cons, List.flatten_cons]
    rfl

end Sound

theorem reconnected_append (effects more : List (ServerEffect η ω)) :
    reconnected (effects ++ more) = reconnected effects ++ reconnected more :=
  List.filterMap_append

theorem reconnected_effectsAt (slots : List (Slot η)) (i : Nat) (p : Push ω) :
    reconnected (effectsAt slots i p) =
      ((slotAt slots i).map fun slot => (slot.handler, p.endpoint)).toList := by
  rw [effectsAt, reconnected_append, reconnected_append]
  have hrequest : reconnected ((requestAt slots i).toList.map (.answer ·.handler .needBuffer) :
      List (ServerEffect η ω)) = [] := by cases requestAt slots i <;> rfl
  have hobserved : reconnected (observation p.observer (resultAt slots.length i) :
      List (ServerEffect η ω)) = [] := by cases p.observer <;> rfl
  rw [hrequest, hobserved, List.nil_append, List.append_nil]
  cases slotAt slots i <;> rfl

theorem countP_asks_effectsAt (slots : List (Slot η)) (i : Nat) (p : Push ω) :
    (effectsAt slots i p).countP ServerEffect.asks = if i + 2 = slots.length then 1 else 0 := by
  have hreconnect : ((slotAt slots i).toList.map (.answer ·.handler (.reconnected p.endpoint)) :
      List (ServerEffect η ω)).countP ServerEffect.asks = 0 := by
    cases slotAt slots i <;> rfl
  have hobserved : (observation p.observer (resultAt slots.length i) :
      List (ServerEffect η ω)).countP ServerEffect.asks = 0 := by cases p.observer <;> rfl
  rw [effectsAt, List.countP_append, List.countP_append, hreconnect, hobserved, requestAt]
  split
  · next h =>
    obtain ⟨last, hlast⟩ : ∃ last, slots.getLast? = some last := by
      cases slots with
      | nil => cases h
      | cons first rest => exact ⟨_, List.getLast?_eq_some_getLast (List.cons_ne_nil _ _)⟩
    rw [hlast]
    rfl
  · rfl

/-- Slots are answered with the endpoints in the order in which they stand. -/
theorem reconnected_pushes (slots : List (Slot η)) (pushes : List (Push ω)) :
    reconnected (pushes.mapIdx (effectsAt slots)).flatten =
      ((handlers slots).take (capacity slots.length)).zip (pushes.map (·.endpoint)) := by
  induction pushes generalizing slots with
  | nil => exact List.zip_nil_right.symm
  | cons p rest ih =>
    have hrest := ih (leftBy slots 1)
    rw [effectsAt_leftBy, capacity_leftBy] at hrest
    rw [List.mapIdx_cons, List.flatten_cons, reconnected_append, hrest, reconnected_effectsAt]
    cases slots with
    | nil => rfl
    | cons first more =>
      have hcapacity : 0 < capacity (first :: more).length := by
        rw [capacity, List.length_cons]
        split <;> omega
      -- What the first push leaves differs from the other slots only where no push gets to.
      have hmore : (handlers (leftBy (first :: more) 1)).take
          (capacity (first :: more).length - 1) =
            (handlers more).take (capacity (first :: more).length - 1) := by
        by_cases h : 1 < capacity (first :: more).length
        · rw [leftBy, if_pos h]
          rfl
        · rw [show capacity (first :: more).length - 1 = 0 by omega, List.take_zero,
            List.take_zero]
      obtain ⟨n, hn⟩ := Nat.exists_eq_succ_of_ne_zero (Nat.ne_of_gt hcapacity)
      rw [hmore, slotAt, if_pos hcapacity, hn]
      rfl

theorem length_leftBy_one (slots : List (Slot η)) :
    (leftBy slots 1).length = if slots.length ≤ 2 then 0 else slots.length - 1 := by
  by_cases h : 1 < capacity slots.length
  · rw [leftBy, if_pos h, List.length_drop, if_neg]
    rw [capacity] at h
    split at h <;> omega
  · rw [leftBy, if_neg h, if_pos]
    · rfl
    · rw [capacity] at h
      split at h <;> omega

/-- More commands are asked for once, with the push that finds just two slots. -/
theorem countP_asks_pushes (slots : List (Slot η)) (pushes : List (Push ω)) :
    (pushes.mapIdx (effectsAt slots)).flatten.countP ServerEffect.asks =
      if 2 ≤ slots.length ∧ slots.length ≤ pushes.length + 1 then 1 else 0 := by
  induction pushes generalizing slots with
  | nil => exact (if_neg fun h => by rw [List.length_nil] at h; omega).symm
  | cons p rest ih =>
    have hrest := ih (leftBy slots 1)
    rw [effectsAt_leftBy, length_leftBy_one] at hrest
    rw [List.mapIdx_cons, List.flatten_cons, List.countP_append, hrest, countP_asks_effectsAt,
      List.length_cons]
    grind

/-- A series of pushes spends the window. -/
theorem spent_pushes {handling : Handling η ω}
    (hsound : ∀ handler answer, (handling handler answer).broken = false)
    (slots : List (Slot η)) (pushes : List (Push ω)) :
    ∃ effects, Spent slots pushes
      (SerialQueue.serial (worker handling) slots (pushes.map Push.job)).1 effects
      (SerialQueue.serial (worker handling) slots (pushes.map Push.job)).2.2 ∧
    (SerialQueue.serial (worker handling) slots (pushes.map Push.job)).2.1 = effects.flatten := by
  rw [serial_pushes hsound]
  refine ⟨pushes.mapIdx (effectsAt slots), ?_, rfl⟩
  exact {
    outcomes_eq := rfl
    effects_eq := rfl
    left_eq := rfl
    reconnected_eq := reconnected_pushes slots pushes
    asks_eq := fun hlong => by
      rw [countP_asks_pushes]
      congr 1
      simp only [eq_iff_iff]
      omega }

end Window

namespace Server

open SerialQueue

/-- What pushes do to the window of a server, on record for every moment of a run: `u` is the
server with what has happened to it. -/
structure Spends (handling : Handling η ω)
    (u : InUse (List (Slot η)) (ServerJob η ω) (ServerEffect η ω) ServerResult) : Prop where
  /-- A push that runs next does what the size of the window says. -/
  one : ∀ endpoint observer, Window.OnePush handling u.queue.state endpoint observer
  /-- Pushes that ran one after the other, with no other job between them, have spent the window
  that the jobs before them left. What they did and came to stands behind what those did and came
  to. -/
  series : ∀ before pushes after, u.ran = before ++ pushes.map Push.job ++ after →
    ∃ effects outcomes, Window.Spent (serial (Window.worker handling) [] before).1 pushes
        (serial (Window.worker handling) [] (before ++ pushes.map Push.job)).1 effects outcomes ∧
      (serial (Window.worker handling) [] before).2.1 ++ effects.flatten <+: u.effects ∧
      (serial (Window.worker handling) [] before).2.2 ++ outcomes <+: u.outcomes

/-- The outcomes of the jobs that ran stand in front, also if the worker has stopped since. -/
theorem prefix_outcomes {handling : Handling η ω}
    {u : InUse (List (Slot η)) (ServerJob η ω) (ServerEffect η ω) ServerResult}
    (h : u.Recorded (Window.worker handling) []) :
    (serial (Window.worker handling) [] u.ran).2.2 <+: u.outcomes := by
  cases hstopped : u.queue.stopped with
  | false => exact ⟨[], by rw [List.append_nil, h.outcomes_eq hstopped]⟩
  | true =>
    rw [(h.stopped_eq hstopped).2.2]
    exact List.prefix_append ..

/-- However a server is used, and whatever jobs its handlers post, as long as they do not break off:
a push answers the oldest slot, of two slots both, and fails without any; and pushes with nothing
between them spend a window of `b` slots with the first `b - 1` of them, or with the first one if
`b = 1`. -/
theorem spends_run (handling : Handling η ω)
    (hsound : ∀ handler answer, (handling handler answer).broken = false)
    (moves : List (Move (ServerJob η ω))) :
    Spends handling ((InUse.start []).run (Window.worker handling) moves) := by
  have h := (InUse.recorded_start (Window.worker handling) []).run moves
  generalize (InUse.start []).run (Window.worker handling) moves = u at h
  refine ⟨Window.onePush hsound u.queue.state, fun before pushes after hran => ?_⟩
  obtain ⟨effects, hspent, heffects⟩ := Window.spent_pushes hsound
    (serial (Window.worker handling) [] before).1 pushes
  have hdone : (serial (Window.worker handling) [] (before ++ pushes.map Push.job)).2.1 <+:
      u.effects := by
    rw [h.effects_eq, hran, serial_append _ _ (before ++ pushes.map Push.job)]
    exact List.prefix_append ..
  have hended : (serial (Window.worker handling) [] (before ++ pushes.map Push.job)).2.2 <+:
      u.outcomes := by
    have hall := prefix_outcomes h
    rw [hran, serial_append _ _ (before ++ pushes.map Push.job)] at hall
    exact (List.prefix_append ..).trans hall
  rw [serial_append] at hdone hended ⊢
  refine ⟨effects, _, hspent, ?_, hended⟩
  rw [← heffects]
  exact hdone

/-- Every handler posts another command when it is called. -/
def replacing : Handling Nat Unit := fun handler _ =>
  ⟨[.handle ⟨.numbered (handler + 10), .fillBuffer⟩ (handler + 10)], false⟩

/-- Three slots are kept open, and then there are four pushes. -/
def fourPushes : List (Move (ServerJob Nat Unit)) :=
  (List.range 3).map (fun n => .post (.handle ⟨.numbered n, .fillBuffer⟩ n)) ++
    ["a", "b", "c", "d"].map (fun endpoint => .post (.push endpoint none)) ++
    List.replicate 13 .work

/-- Two of them succeed, and the request comes before the second reconnect. The commands that the
handlers post come too late for the others. -/
theorem spends_fourPushes :
    (∀ handler answer, (replacing handler answer).broken = false) ∧
    ((InUse.start []).run (Window.worker replacing) fourPushes).ran.length = 10 ∧
    ((InUse.start []).run (Window.worker replacing) fourPushes).effects =
      [.answer 0 (.reconnected "a"), .answer 2 .needBuffer, .answer 1 (.reconnected "b")] ∧
    ((InUse.start []).run (Window.worker replacing) fourPushes).queue.state.map (·.handler) =
      [10, 12, 11] ∧
    Spends replacing ((InUse.start []).run (Window.worker replacing) fourPushes) :=
  ⟨fun _ _ => rfl, rfl, rfl, rfl, spends_run replacing (fun _ _ => rfl) fourPushes⟩

end Server

end PacketTunnel.Ipc
