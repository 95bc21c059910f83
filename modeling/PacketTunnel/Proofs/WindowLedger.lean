import Mathlib.Data.List.Nodup
import PacketTunnel.Proofs.UuidNumber
import PacketTunnel.Proofs.WindowWork

/-!
# The accounts of a server

A server that runs jobs in the order in which they were posted, by others or by the handlers that it
calls. Looking back on the jobs that it has run, each handler is accounted for: it waits in a slot,
or it was called, or it was dropped. Slots stand in the order in which their identifiers came into
the window.
-/

namespace PacketTunnel.Ipc

variable {η ω : Type}

/-- A job that a server has run, with the slots before and after it. -/
structure Worked (η ω : Type) where
  /-- The job. -/
  job : ServerJob η ω
  /-- The slots that the job found. -/
  found : List (Slot η)
  /-- The slots that it left. -/
  left : List (Slot η)
  /-- What it did to handlers and observers. -/
  effects : List (ServerEffect η ω)

namespace Window

/-- What a job does to a window, for the record. -/
def work (handling : Handling η ω) (slots : List (Slot η)) (job : ServerJob η ω) : Worked η ω :=
  ⟨job, slots, (worker handling job slots).state, (worker handling job slots).effects⟩

/-- The handlers that came with the jobs that were run. -/
def handled (history : List (Worked η ω)) : List η := history.filterMap (·.job.handler?)

/-- What the jobs did to handlers and observers. -/
def effectsOf (history : List (Worked η ω)) : List (ServerEffect η ω) := history.flatMap (·.effects)

/-- The jobs that a window has seen, and what they left of it. -/
inductive History (handling : Handling η ω) : List (Worked η ω) → List (Slot η) → Prop where
  /-- Nothing has happened. -/
  | nil : History handling [] []
  /-- One more job was run. -/
  | snoc {history : List (Worked η ω)} {slots : List (Slot η)} (h : History handling history slots)
      (job : ServerJob η ω) :
    History handling (history ++ [work handling slots job]) (work handling slots job).left

theorem handled_append (history more : List (Worked η ω)) :
    handled (history ++ more) = handled history ++ handled more := List.filterMap_append

theorem effectsOf_append (history more : List (Worked η ω)) :
    effectsOf (history ++ more) = effectsOf history ++ effectsOf more := List.flatMap_append

theorem effectsOf_singleton (worked : Worked η ω) : effectsOf [worked] = worked.effects :=
  List.flatMap_singleton ..

theorem handled_singleton (worked : Worked η ω) :
    handled [worked] = worked.job.handler?.toList := by
  rw [handled, List.filterMap_cons]
  cases worked.job.handler? <;> rfl

namespace History

variable {handling : Handling η ω} {history : List (Worked η ω)} {slots : List (Slot η)}

/-- Identifiers stay distinct. -/
theorem nodup_ids (h : History handling history slots) : (ids slots).Nodup := by
  induction h with
  | nil => exact List.nodup_nil
  | @snoc history slots h job ih =>
    rcases (work_worker handling ih job).ids_left with hsub | ⟨id, hnew, hids⟩
    · exact hsub.nodup ih
    · show (ids (worker handling job slots).state).Nodup
      rw [hids, List.nodup_append]
      refine ⟨ih, List.nodup_singleton id, ?_⟩
      intro a ha b hb heq
      rw [heq, List.mem_singleton.mp hb] at ha
      exact hnew ha

/-- What a job does, for a window that has a history. -/
theorem work (h : History handling history slots) (job : ServerJob η ω) :
    Work slots job (Window.work handling slots job).left (Window.work handling slots job).effects :=
  work_worker handling h.nodup_ids job

/-- Every handler that came with a job waits, or was called, or was dropped. -/
theorem perm (h : History handling history slots) : (handled history).Perm
    (handlers slots ++ (answered (effectsOf history) ++ dropped (effectsOf history))) := by
  induction h with
  | nil => exact .refl _
  | @snoc history slots h job ih =>
    have hwork := (h.work job).perm_handlers
    rw [handled_append, handled_singleton, effectsOf_append, effectsOf_singleton, answered_append,
      dropped_append]
    generalize answered (effectsOf history) = called, dropped (effectsOf history) = lost at ih ⊢
    generalize answered (Window.work handling slots job).effects = calledNow,
      dropped (Window.work handling slots job).effects = lostNow at hwork ⊢
    have hjob : (handled history ++ job.handler?.toList).Perm
        ((handlers slots ++ job.handler?.toList) ++ (called ++ lost)) := by
      refine (ih.append_right _).trans ?_
      rw [List.append_assoc _ (called ++ lost), List.append_assoc _ _ (called ++ lost)]
      exact List.perm_append_comm.append_left _
    have hsort : ((calledNow ++ lostNow) ++ (called ++ lost)).Perm
        ((called ++ calledNow) ++ (lost ++ lostNow)) := by
      refine List.perm_append_comm.trans ?_
      rw [List.append_assoc, List.append_assoc]
      exact (List.perm_append_comm_assoc _ _ _).append_left _
    refine hjob.trans ((hwork.append_right _).trans ?_)
    rw [List.append_assoc]
    exact hsort.append_left _

/-- Every slot that was asked for is open or has left in one way. -/
theorem count (h : History handling history slots) :
    history.countP (·.job.fills) = slots.length + gone (effectsOf history) := by
  induction h with
  | nil => rfl
  | @snoc history slots h job ih =>
    have hwork := (h.work job).length_slots
    have hjob : [Window.work handling slots job].countP (·.job.fills) =
        if job.fills then 1 else 0 := by
      rw [List.countP_cons, List.countP_nil, Nat.zero_add]
      rfl
    rw [List.countP_append, hjob, ih, effectsOf_append, effectsOf_singleton, gone_append]
    omega

/-- A job that was run had a window with a history, and so has the window that it left. -/
theorem at_job {before after : List (Worked η ω)} {now : Worked η ω}
    (h : History handling (before ++ now :: after) slots) :
    History handling before now.found ∧ History handling (before ++ [now]) now.left := by
  generalize hrun : before ++ now :: after = history at h
  induction h generalizing after with
  | nil => exact absurd hrun (List.append_ne_nil_of_right_ne_nil _ (List.cons_ne_nil _ _))
  | @snoc history slots h job ih =>
    rcases List.eq_nil_or_concat after with rfl | ⟨rest, last, rfl⟩
    · obtain ⟨rfl, hnow⟩ := List.append_inj' hrun rfl
      obtain ⟨rfl, -⟩ := List.cons.inj hnow
      exact ⟨h, h.snoc job⟩
    · rw [List.concat_eq_append, ← List.cons_append, ← List.append_assoc] at hrun
      exact ih (List.append_inj' hrun rfl).1

/-- A handler that was called or dropped waits no longer, if no handler comes twice. -/
theorem not_mem_handlers (h : History handling history slots) (hnodup : (handled history).Nodup)
    {handler : η}
    (hgone : handler ∈ answered (effectsOf history) ++ dropped (effectsOf history)) :
    handler ∉ handlers slots := by
  have hall := h.perm.nodup_iff.mp hnodup
  intro hslot
  exact (List.nodup_append.mp hall).2.2 handler hslot handler hgone rfl

/-- A handler that some job took from the window is never there again. -/
theorem gone (h : History handling history slots) (hnodup : (handled history).Nodup)
    {before after : List (Worked η ω)} {now : Worked η ω} (hrun : history = before ++ now :: after)
    {handler : η} (hfound : handler ∈ handlers now.found) (hleft : handler ∉ handlers now.left) :
    handler ∉ handlers slots := by
  subst hrun
  obtain ⟨hbefore, hnow⟩ := h.at_job
  have hcame : handler ∈ handled (before ++ [now]) := by
    rw [handled_append]
    exact List.mem_append_left _ (hbefore.perm.mem_iff.mpr (List.mem_append_left _ hfound))
  have hwent := (List.mem_append.mp (hnow.perm.mem_iff.mp hcame)).resolve_left hleft
  apply h.not_mem_handlers hnodup
  rw [List.append_cons, effectsOf_append, answered_append, dropped_append]
  rcases List.mem_append.mp hwent with hcalled | hdropped
  · exact List.mem_append_left _ (List.mem_append_left _ hcalled)
  · exact List.mem_append_right _ (List.mem_append_left _ hdropped)

end History

end Window

/-- Something that happens to a server. -/
inductive ServerStep (η ω : Type) where
  /-- A job is posted. -/
  | post (job : ServerJob η ω)
  /-- The worker runs the oldest job, if there is one. -/
  | work

namespace Server

/-- Take a step; a job that is run goes on record. -/
def step (handling : Handling η ω) (s : Server η ω) :
    ServerStep η ω → Server η ω × List (Worked η ω)
  | .post job =>
    match s.post job with
    | .ok (s, _) => (s, [])
    | .error _ => (s, [])
  | .work =>
    match s.jobs, s.step? (Window.worker handling) with
    | job :: _, some (next, effects, _) => (next, [⟨job, s.state, next.state, effects⟩])
    | _, _ => (s, [])

/-- Take steps one after the other. -/
def run (handling : Handling η ω) (s : Server η ω) :
    List (ServerStep η ω) → Server η ω × List (Worked η ω)
  | [] => (s, [])
  | next :: rest =>
    let (s, worked) := s.step handling next
    let (s, more) := run handling s rest
    (s, worked ++ more)

variable {handling : Handling η ω}

/-- A step goes on with the history of the window. -/
theorem history_step {s : Server η ω} (hrunning : s.Running) {history : List (Worked η ω)}
    (h : Window.History handling history s.state) (x : ServerStep η ω) :
    (s.step handling x).1.Running ∧ Window.History handling (history ++ (s.step handling x).2)
      (s.step handling x).1.state := by
  cases x with
  | post job =>
    rw [step, hrunning.post]
    refine ⟨hrunning.push job, ?_⟩
    rw [List.append_nil]
    exact h
  | work =>
    rcases hjobs : s.jobs with _ | ⟨job, rest⟩
    · rw [step, hjobs]
      refine ⟨hrunning, ?_⟩
      rw [List.append_nil]
      exact h
    · obtain ⟨next, outcomes, hstep, hnext, hstate, -⟩ :=
        hrunning.step?_cons (Window.worker handling) hjobs
      rw [step, hjobs, hstep]
      refine ⟨hnext, ?_⟩
      simp only [hstate]
      exact h.snoc job

/-- A run goes on with the history of the window. -/
theorem history_run {s : Server η ω} (hrunning : s.Running) {history : List (Worked η ω)}
    (h : Window.History handling history s.state) (steps : List (ServerStep η ω)) :
    Window.History handling (history ++ (s.run handling steps).2)
      (s.run handling steps).1.state := by
  induction steps generalizing s history with
  | nil =>
    rw [run, List.append_nil]
    exact h
  | cons x rest ih =>
    obtain ⟨hnext, hhistory⟩ := history_step hrunning h x
    have hrest := ih hnext hhistory
    rw [List.append_assoc] at hrest
    exact hrest

/-- Handler number two posts a command under an identifier that is in use, and breaks off. -/
def breaking : Handling Nat Unit := fun handler _ =>
  if handler = 2 then ⟨[.handle ⟨.numbered 0, .fillBuffer⟩ 3], true⟩ else ⟨[], false⟩

end Server

end PacketTunnel.Ipc
