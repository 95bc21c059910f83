import PacketTunnel.Proofs.ClientTurn

/-!
# A task that is there once more

Two clients that are equal but for one task, or one reply that becomes this task, which the second
has and the first has not. Whatever both do next, they do alike, up to the step in which the second
one begins the task.
-/

namespace PacketTunnel.Ipc

/-- What is there once more: a task, or the reply that becomes it. The number is that of the steps
that it takes to use it up. -/
inductive Apart (task : Task) (v : Client) : Nat → Client → Prop where
  /-- The task waits among the tasks. -/
  | inTasks (before after : List Task) (htasks : v.tasks = before ++ after) :
    Apart task v 1 { v with tasks := before ++ task :: after }
  /-- The reply waits among the replies. -/
  | inReplies (reply : Reply) (before after : List Reply) (hreply : reply.task? = some task)
      (hreplies : v.replies = before ++ after) :
    Apart task v 2 { v with replies := before ++ reply :: after }

namespace Apart

variable {task : Task} {n : Nat} {v w : Client} {τ : Type}

theorem phase_eq (h : Apart task v n w) : w.phase = v.phase := by
  cases h <;> rfl

theorem window_eq (h : Apart task v n w) : w.window = v.window := by
  cases h <;> rfl

theorem refill_eq (h : Apart task v n w) : w.refill = v.refill := by
  cases h <;> rfl

/-- A change of phase changes nothing about what is there once more. -/
theorem withPhase (h : Apart task v n w) (phase : Phase) :
    Apart task { v with phase } n { w with phase } := by
  cases h with
  | inTasks before after htasks => exact .inTasks before after htasks
  | inReplies reply before after hreply hreplies =>
    exact .inReplies reply before after hreply hreplies

/-- What is left of a refill changes nothing about what is there once more. -/
theorem withRefill (h : Apart task v n w) {left left' : Option Nat} (hleft : left' = left) :
    Apart task { v with refill := left } n { w with refill := left' } := by
  subst hleft
  cases h with
  | inTasks before after htasks => exact .inTasks before after htasks
  | inReplies reply before after hreply hreplies =>
    exact .inReplies reply before after hreply hreplies

theorem beginRefill (h : Apart task v n w) : Apart task v.beginRefill n w.beginRefill := by
  have hwindow : some w.window = some v.window := congrArg some h.window_eq
  exact (h.withPhase .fillingServerBuffer).withRefill hwindow

theorem post (h : Apart task v n w) (next : Task) : Apart task (v.post next) n (w.post next) := by
  cases h with
  | inTasks before after htasks =>
    have hnext : (v.post next).tasks = before ++ (after ++ [next]) := by
      rw [Client.post, htasks, List.append_assoc]
    have hapart : Apart task (v.post next) _ _ := .inTasks before (after ++ [next]) hnext
    rw [← List.cons_append, ← List.append_assoc] at hapart
    exact hapart
  | inReplies found before after hfound hreplies =>
    exact .inReplies found before after hfound hreplies

theorem receive (h : Apart task v n w) (answer : Answer) :
    Apart task (v.receive answer) n (w.receive answer) := by
  cases answer with
  | noData => exact h.post .serverGone
  | unreadable => exact h
  | reply next =>
    cases h with
    | inTasks before after htasks => exact .inTasks before after htasks
    | inReplies found before after hfound hreplies =>
      have hnext : (v.receive (.reply next)).replies = before ++ (after ++ [next]) := by
        rw [Client.receive, hreplies, List.append_assoc]
      have hapart : Apart task (v.receive (.reply next)) _ _ :=
        .inReplies found before (after ++ [next]) hfound hnext
      rw [← List.cons_append, ← List.append_assoc] at hapart
      exact hapart

theorem lose (h : Apart task v n w) : Apart task v.lose.1 n w.lose.1 ∧ w.lose.2 = v.lose.2 := by
  rw [Client.lose, Client.lose, h.phase_eq]
  by_cases hphase : v.phase = .stopped
  · rw [if_pos hphase, if_pos hphase]
    exact ⟨h, rfl⟩
  · rw [if_neg hphase, if_neg hphase]
    exact ⟨h.withPhase .stopped, rfl⟩

/-- What is sent does not depend on what is there once more. -/
theorem send (h : Apart task v n w) (transport : Transport τ) (id : Uuid) (action : Action)
    (t : τ) :
    Apart task (Client.send transport id action v t).1 n (Client.send transport id action w t).1 ∧
      (Client.send transport id action w t).2 = (Client.send transport id action v t).2 := by
  rcases hsent : (transport t ⟨id, action⟩).2 with ⟨_ | answer, _ | _⟩
  · simp only [Client.send, hsent, Bool.false_eq_true, ite_false, and_true]
    exact h
  · simp only [Client.send, hsent, ite_true]
    exact ⟨h.lose.1, Prod.ext rfl h.lose.2⟩
  · simp only [Client.send, hsent, Bool.false_eq_true, ite_false, and_true]
    exact h.receive answer
  · obtain ⟨hlost, hevents⟩ := (h.receive answer).lose
    simp only [Client.send, hsent, ite_true]
    exact ⟨hlost, Prod.ext rfl hevents⟩

/-- What a task does does not depend on what is there once more. -/
theorem begin_ (h : Apart task v n w) (transport : Transport τ) (id : Uuid) (t : τ) (next : Task) :
    Apart task (Client.begin_ transport id v t next).1 n
        (Client.begin_ transport id w t next).1 ∧
      (Client.begin_ transport id w t next).2 = (Client.begin_ transport id v t next).2 := by
  cases next with
  | start =>
    rw [Client.begin_, Client.begin_, h.phase_eq]
    by_cases hphase : v.phase = .stopped
    · rw [if_pos hphase, if_pos hphase]
      exact (h.withPhase .waitingForServerStart).send transport id .start t
    · rw [if_neg hphase, if_neg hphase]
      exact ⟨h, rfl⟩
  | stop => exact ⟨h.withPhase .stopped, rfl⟩
  | serverDidStart =>
    rw [Client.begin_, Client.begin_, h.phase_eq]
    by_cases hphase : v.phase = .waitingForServerStart
    · rw [if_pos hphase, if_pos hphase]
      exact ⟨h.beginRefill, rfl⟩
    · rw [if_neg hphase, if_neg hphase]
      exact ⟨h, rfl⟩
  | needBuffer =>
    rw [Client.begin_, Client.begin_, h.phase_eq]
    by_cases hphase : v.phase = .stopped
    · rw [if_pos hphase, if_pos hphase]
      exact ⟨h, rfl⟩
    · rw [if_neg hphase, if_neg hphase]
      exact ⟨h.beginRefill, rfl⟩
  | serverGone => exact ⟨h.lose.1, Prod.ext rfl h.lose.2⟩

/-- A refill at hand goes on as if nothing were there once more. -/
theorem sendOne (h : Apart task v n w) (transport : Transport τ) (id : Uuid) (left : Nat) (t : τ) :
    Apart task (Client.sendOne transport id left v t).1 n
        (Client.sendOne transport id left w t).1 ∧
      (Client.sendOne transport id left w t).2 = (Client.sendOne transport id left v t).2 := by
  obtain ⟨hsent, hrest⟩ := h.send transport id .fillBuffer t
  have hleft : (if (Client.send transport id .fillBuffer w t).1.phase = .stopped then none
      else some left) = if (Client.send transport id .fillBuffer v t).1.phase = .stopped then none
      else some left := by
    rw [hsent.phase_eq]
  exact ⟨hsent.withRefill hleft, hrest⟩

/-- A step of the task queue goes on as if nothing were there once more, unless what is there once
more is the task to begin. -/
theorem taskStep? (h : Apart task v n w) (transport : Transport τ) (id : Uuid) (t : τ) :
    (v.taskStep? transport id t = none ∧ w.taskStep? transport id t = none) ∨
    (∃ v' w' rest, v.taskStep? transport id t = some (v', rest) ∧
      w.taskStep? transport id t = some (w', rest) ∧ Apart task v' n w') ∨
    (n = 1 ∧ v.refill = none ∧ w = { v with tasks := task :: v.tasks }) := by
  have hsame := h.refill_eq
  rcases v.refill_cases with hrefill | hrefill | ⟨left, hrefill⟩
  · rw [hrefill] at hsame
    cases h with
    | inTasks before after htasks =>
      cases before with
      | nil => exact .inr (.inr ⟨rfl, hrefill, by rw [htasks]; rfl⟩)
      | cons next before =>
        obtain ⟨hbegun, hrest⟩ := begin_ (.inTasks before after rfl :
          Apart task { v with tasks := before ++ after } _ _) transport id t next
        exact .inr (.inl ⟨_, _, _, Client.taskStep?_cons hrefill htasks,
          (Client.taskStep?_cons hsame rfl).trans (congrArg some (Prod.ext rfl hrest)), hbegun⟩)
    | inReplies found before after hfound hreplies =>
      by_cases htasks : v.tasks = []
      · exact .inl ⟨Client.taskStep?_nil hrefill htasks, Client.taskStep?_nil hsame htasks⟩
      · obtain ⟨next, rest, htasks⟩ := List.exists_cons_of_ne_nil htasks
        obtain ⟨hbegun, hrest⟩ := begin_ (.inReplies found before after hfound hreplies :
          Apart task { v with tasks := rest } _ _) transport id t next
        exact .inr (.inl ⟨_, _, _, Client.taskStep?_cons hrefill htasks,
          (Client.taskStep?_cons hsame htasks).trans (congrArg some (Prod.ext rfl hrest)), hbegun⟩)
  · rw [hrefill] at hsame
    refine .inr (.inl ⟨_, _, _, Client.taskStep?_zero hrefill, ?_,
      (h.withPhase .standby).withRefill rfl⟩)
    rw [Client.taskStep?_zero hsame, h.window_eq]
  · rw [hrefill] at hsame
    obtain ⟨hsent, hrest⟩ := h.sendOne transport id left t
    exact .inr (.inl ⟨_, _, _, Client.taskStep?_succ hrefill,
      (Client.taskStep?_succ hsame).trans (congrArg some (Prod.ext rfl hrest)), hsent⟩)

/-- A step of the reply queue goes on as if nothing were there once more, unless what is there once
more is the reply to look at. -/
theorem replyStep? (h : Apart task v n w) :
    (v.replyStep? = none ∧ w.replyStep? = none) ∨
    (∃ v' w' events, v.replyStep? = some (v', events) ∧ w.replyStep? = some (w', events) ∧
      Apart task v' n w') ∨
    (n = 2 ∧ ∃ w', w.replyStep? = some (w', []) ∧ Apart task v 1 w') := by
  cases h with
  | inTasks before after htasks =>
    by_cases hreplies : v.replies = []
    · exact .inl ⟨Client.replyStep?_nil hreplies, Client.replyStep?_nil hreplies⟩
    · obtain ⟨next, rest, hreplies⟩ := List.exists_cons_of_ne_nil hreplies
      refine .inr (.inl ⟨_, _, _, Client.replyStep?_cons hreplies,
        Client.replyStep?_cons hreplies, ?_⟩)
      have happended : v.tasks ++ next.task?.toList = before ++ (after ++ next.task?.toList) := by
        rw [htasks, List.append_assoc]
      have hapart : Apart task { v with
          replies := rest
          tasks := v.tasks ++ next.task?.toList } _ _ := .inTasks before _ happended
      rw [← List.cons_append, ← List.append_assoc] at hapart
      exact hapart
  | inReplies found before after hfound hreplies =>
    cases before with
    | nil =>
      obtain rfl : v.replies = after := hreplies
      refine .inr (.inr ⟨rfl, { v with tasks := v.tasks ++ [task] }, ?_,
        .inTasks v.tasks [] (List.append_nil _).symm⟩)
      rw [Client.replyStep?_cons rfl, hfound]
      cases found with
      | reconnected => exact absurd hfound (Option.some_ne_none task).symm
      | serverStarted => rfl
      | needBuffer => rfl
    | cons next before =>
      exact .inr (.inl ⟨_, _, _, Client.replyStep?_cons hreplies, Client.replyStep?_cons rfl,
        .inReplies found before after hfound rfl⟩)

end Apart

end PacketTunnel.Ipc
