import PacketTunnel.Proofs.DirectStep

/-!
# What a job does to the window

Whatever handlers do when they are called, a job of the server changes the slots in one of a few
ways. Each of them keeps the identifiers apart, takes every slot that is gone to one answer or drops
it, and adds at most one slot, behind the others.
-/

namespace PacketTunnel.Ipc

variable {η ω : Type}

namespace ServerJob

/-- The handler that a command comes with. -/
def handler? : ServerJob η ω → Option η
  | .handle _ handler => some handler
  | _ => none

/-- Whether a job keeps a slot open. -/
def fills : ServerJob η ω → Bool
  | .handle ⟨_, .fillBuffer⟩ _ => true
  | _ => false

end ServerJob

namespace ServerEffect

/-- The handler that is called with an answer. -/
def answered? : ServerEffect η ω → Option η
  | .answer handler _ => some handler
  | _ => none

/-- The handler that is dropped without being called. -/
def dropped? : ServerEffect η ω → Option η
  | .drop handler => some handler
  | _ => none

/-- Whether a handler is told of a reconnect. -/
def reconnects : ServerEffect η ω → Bool
  | .answer _ (.reconnected _) => true
  | _ => false

/-- Whether a handler is asked for more commands. -/
def asks : ServerEffect η ω → Bool
  | .answer _ .needBuffer => true
  | _ => false

end ServerEffect

namespace Window

/-- The identifiers under which slots are kept open. -/
def ids (slots : List (Slot η)) : List Uuid := slots.map (·.command.id)

/-- The handlers that wait in slots. -/
def handlers (slots : List (Slot η)) : List η := slots.map (·.handler)

/-- The handlers that are called with an answer. -/
def answered (effects : List (ServerEffect η ω)) : List η :=
  effects.filterMap ServerEffect.answered?

/-- The handlers that are dropped without being called. -/
def dropped (effects : List (ServerEffect η ω)) : List η :=
  effects.filterMap ServerEffect.dropped?

/-- How many slots leave the window with these effects: by an event, by a request for more commands
or by being dropped. -/
def gone (effects : List (ServerEffect η ω)) : Nat :=
  effects.countP ServerEffect.reconnects + effects.countP ServerEffect.asks +
    (dropped effects).length

/-- Tell observers how pushes ended. -/
def tell (told : List (ω × Except Error Unit)) : List (ServerEffect η ω) :=
  told.map fun p => .observe p.1 p.2

theorem answered_append (effects more : List (ServerEffect η ω)) :
    answered (effects ++ more) = answered effects ++ answered more := List.filterMap_append

theorem dropped_append (effects more : List (ServerEffect η ω)) :
    dropped (effects ++ more) = dropped effects ++ dropped more := List.filterMap_append

theorem gone_append (effects more : List (ServerEffect η ω)) :
    gone (effects ++ more) = gone effects + gone more := by
  simp only [gone, dropped_append, List.countP_append, List.length_append]
  omega

theorem answered_drop (l : List η) : answered (l.map .drop : List (ServerEffect η ω)) = [] := by
  rw [answered, List.filterMap_map]
  exact List.filterMap_eq_nil_iff.mpr fun _ _ => rfl

theorem dropped_drop (l : List η) : dropped (l.map .drop : List (ServerEffect η ω)) = l := by
  rw [dropped, List.filterMap_map]
  exact List.filterMap_some

theorem gone_drop (l : List η) : gone (l.map .drop : List (ServerEffect η ω)) = l.length := by
  have hreconnects :
      (l.map .drop : List (ServerEffect η ω)).countP ServerEffect.reconnects = 0 := by
    rw [List.countP_map]
    exact List.countP_eq_zero.mpr fun _ _ => Bool.false_ne_true
  have hasks : (l.map .drop : List (ServerEffect η ω)).countP ServerEffect.asks = 0 := by
    rw [List.countP_map]
    exact List.countP_eq_zero.mpr fun _ _ => Bool.false_ne_true
  rw [gone, hreconnects, hasks, dropped_drop, Nat.zero_add]

theorem answered_tell (told : List (ω × Except Error Unit)) :
    answered (tell told : List (ServerEffect η ω)) = [] := by
  rw [answered, tell, List.filterMap_map]
  exact List.filterMap_eq_nil_iff.mpr fun _ _ => rfl

theorem dropped_tell (told : List (ω × Except Error Unit)) :
    dropped (tell told : List (ServerEffect η ω)) = [] := by
  rw [dropped, tell, List.filterMap_map]
  exact List.filterMap_eq_nil_iff.mpr fun _ _ => rfl

theorem gone_tell (told : List (ω × Except Error Unit)) :
    gone (tell told : List (ServerEffect η ω)) = 0 := by
  have hreconnects : (tell told : List (ServerEffect η ω)).countP ServerEffect.reconnects = 0 := by
    rw [tell, List.countP_map]
    exact List.countP_eq_zero.mpr fun _ _ => Bool.false_ne_true
  have hasks : (tell told : List (ServerEffect η ω)).countP ServerEffect.asks = 0 := by
    rw [tell, List.countP_map]
    exact List.countP_eq_zero.mpr fun _ _ => Bool.false_ne_true
  rw [gone, hreconnects, hasks, dropped_tell]
  rfl

/-- What a job does: the slots that it leaves and its effects. -/
inductive Work (slots : List (Slot η)) :
    ServerJob η ω → List (Slot η) → List (ServerEffect η ω) → Prop where
  /-- The server starts over. -/
  | restarted (id : Uuid) (handler : η) :
    Work slots (.handle ⟨id, .start⟩ handler) []
      ((handlers slots).map .drop ++ [.answer handler .serverStarted])
  /-- A slot is kept open behind the others. -/
  | kept (id : Uuid) (handler : η) (hnew : id ∉ ids slots) :
    Work slots (.handle ⟨id, .fillBuffer⟩ handler) (slots ++ [⟨⟨id, .fillBuffer⟩, handler⟩]) []
  /-- A slot gets a new handler. -/
  | replaced (id : Uuid) (handler : η) (before after : List (Slot η)) (old : Slot η)
      (hslots : slots = before ++ old :: after) (hid : old.command.id = id) :
    Work slots (.handle ⟨id, .fillBuffer⟩ handler) (before ++ { old with handler } :: after)
      [.drop old.handler]
  /-- A push finds no slot. -/
  | underflow (endpoint : String) (observer : Option ω) (told : List (ω × Except Error Unit))
      (hslots : slots = []) :
    Work slots (.push endpoint observer) [] (tell told)
  /-- A push finds two slots, and the newer one breaks off. -/
  | broken (endpoint : String) (observer : Option ω) (first last : Slot η)
      (hslots : slots = [first, last]) :
    Work slots (.push endpoint observer) []
      [.answer last.handler .needBuffer, .drop first.handler]
  /-- A push finds two slots, and uses both. -/
  | pair (endpoint : String) (observer : Option ω) (first last : Slot η)
      (told : List (ω × Except Error Unit)) (hslots : slots = [first, last]) :
    Work slots (.push endpoint observer) []
      ([.answer last.handler .needBuffer, .answer first.handler (.reconnected endpoint)] ++
        tell told)
  /-- A push uses the oldest slot. -/
  | pushed (endpoint : String) (observer : Option ω) (first : Slot η) (rest : List (Slot η))
      (told : List (ω × Except Error Unit)) (hslots : slots = first :: rest) :
    Work slots (.push endpoint observer) rest
      ([.answer first.handler (.reconnected endpoint)] ++ tell told)
  /-- All slots are dropped. -/
  | stopped : Work slots .stop [] ((handlers slots).map .drop)
  /-- The slots are counted. -/
  | counted : Work slots .count slots []

/-- A command that is there already leaves its place to the new handler, and nothing else changes,
because no other slot has its identifier. -/
theorem keep_of_old {before after : List (Slot η)} {old : Slot η} {command : Command Action}
    (hids : (ids (before ++ old :: after)).Nodup) (hid : old.command.id = command.id)
    (handler : η) : (keep (before ++ old :: after) command handler : Progress η ω) =
      (Progress.start (before ++ { old with handler } :: after)).drop [old.handler] := by
  rw [ids, List.map_append, List.map_cons, List.nodup_append, List.nodup_cons] at hids
  obtain ⟨-, ⟨hafter, -⟩, hbefore⟩ := hids
  have hother {slot : Slot η} (hslot : slot ∈ before ∨ slot ∈ after) :
      slot.command.same command = false := by
    rw [Command.same, decide_eq_false_iff_not, ← hid]
    intro heq
    rcases hslot with hslot | hslot
    · exact hbefore _ (List.mem_map_of_mem hslot) _ List.mem_cons_self heq
    · exact hafter (heq ▸ List.mem_map_of_mem hslot)
  have hsame : old.command.same command = true := decide_eq_true hid
  have hfind : (before ++ old :: after).find? (·.command.same command) = some old := by
    have hnone : before.find? (·.command.same command) = none :=
      List.find?_eq_none.mpr fun slot hslot => by rw [hother (.inl hslot)]; exact Bool.false_ne_true
    rw [List.find?_append, hnone, Option.none_or]
    exact List.find?_cons_of_pos hsame
  have hmap (l : List (Slot η)) (hl : ∀ slot ∈ l, slot ∈ before ∨ slot ∈ after) :
      l.map (fun s => if s.command.same command then { s with handler } else s) = l := by
    refine (List.map_congr_left fun slot hslot => ?_).trans (List.map_id l)
    rw [hother (hl slot hslot)]
    rfl
  rw [keep, hfind]
  simp only [List.map_append, List.map_cons, hmap before fun _ => .inl, hmap after fun _ => .inr,
    if_pos hsame]

@[simp] theorem state_done (p : Progress η ω) (result : ServerResult)
    (last : List (ServerEffect η ω)) : (p.done result last).state = p.slots := by
  rw [Progress.done]
  split <;> rfl

theorem effects_done_nil (p : Progress η ω) (result : ServerResult) :
    (p.done result []).effects = p.effects := by
  rw [Progress.done]
  split
  · rfl
  · exact List.append_nil _

/-- Observers are told at the end of a job, if nothing broke off. -/
theorem effects_done (p : Progress η ω) (result : ServerResult) (observer : Option ω)
    (outcome : Except Error Unit) : ∃ told,
      (p.done result (observation observer outcome)).effects = p.effects ++ tell told := by
  rw [Progress.done]
  split
  · exact ⟨[], (List.append_nil _).symm⟩
  · cases observer with
    | none => exact ⟨[], rfl⟩
    | some name => exact ⟨[(name, outcome)], rfl⟩

/-- A command that asks for a slot finds its identifier in the window, or it does not. -/
theorem work_keep (handling : Handling η ω) {slots : List (Slot η)} (hids : (ids slots).Nodup)
    (id : Uuid) (handler : η) :
    Work slots (.handle ⟨id, .fillBuffer⟩ handler)
      (worker handling (.handle ⟨id, .fillBuffer⟩ handler) slots).state
      (worker handling (.handle ⟨id, .fillBuffer⟩ handler) slots).effects := by
  rw [worker, state_done, effects_done_nil, handle]
  by_cases hid : id ∈ ids slots
  · obtain ⟨old, hold, heq⟩ := List.mem_map.mp hid
    obtain ⟨before, after, rfl⟩ := List.append_of_mem hold
    have hkeep : (keep (before ++ old :: after) ⟨id, .fillBuffer⟩ handler : Progress η ω) = _ :=
      keep_of_old hids heq handler
    rw [hkeep]
    exact .replaced id handler before after old rfl heq
  · have hnew : ∀ slot ∈ slots, slot.command.id ≠ id :=
      fun slot hslot heq => hid (heq ▸ List.mem_map_of_mem hslot)
    have hkeep : (keep slots ⟨id, .fillBuffer⟩ handler : Progress η ω) = _ :=
      keep_of_new hnew handler
    rw [hkeep]
    exact .kept id handler hid

/-- A push uses the oldest slot, or the last two, or finds none. -/
theorem work_push (handling : Handling η ω) (slots : List (Slot η)) (endpoint : String)
    (observer : Option ω) :
    Work slots (.push endpoint observer) (worker handling (.push endpoint observer) slots).state
      (worker handling (.push endpoint observer) slots).effects := by
  rw [worker]
  rcases slots with _ | ⟨first, _ | ⟨last, _ | ⟨third, rest⟩⟩⟩
  · obtain ⟨told, heffects⟩ := effects_done (Progress.start [] : Progress η ω)
      (.pushed (.error .bufferUnderflow)) observer (.error .bufferUnderflow)
    simp only [push, state_done, heffects]
    exact .underflow endpoint observer told rfl
  · obtain ⟨told, heffects⟩ := effects_done ((Progress.start []).answer handling first.handler
      (.reconnected endpoint)) (.pushed (.ok ())) observer (.ok ())
    simp only [push, state_done, heffects]
    exact .pushed endpoint observer first [] told rfl
  · simp only [push]
    split
    · next hbroken =>
      have hdone : (((Progress.start []).answer handling last.handler .needBuffer).drop
          [first.handler]).broken = true := hbroken
      simp only [Progress.done, if_pos hdone]
      exact .broken endpoint observer first last rfl
    · obtain ⟨told, heffects⟩ := effects_done (((Progress.start []).answer handling last.handler
        .needBuffer).answer handling first.handler (.reconnected endpoint)) (.pushed (.ok ()))
          observer (.ok ())
      simp only [state_done, heffects]
      exact .pair endpoint observer first last told rfl
  · obtain ⟨told, heffects⟩ := effects_done ((Progress.start (last :: third :: rest)).answer
      handling first.handler (.reconnected endpoint)) (.pushed (.ok ())) observer (.ok ())
    simp only [push, state_done, heffects]
    exact .pushed endpoint observer first (last :: third :: rest) told rfl

/-- A job does one of these things as long as identifiers are distinct. -/
theorem work_worker (handling : Handling η ω) {slots : List (Slot η)} (hids : (ids slots).Nodup)
    (job : ServerJob η ω) :
    Work slots job (worker handling job slots).state (worker handling job slots).effects := by
  cases job with
  | handle command handler =>
    obtain ⟨id, action⟩ := command
    cases action with
    | start =>
      rw [worker, state_done, effects_done_nil]
      exact .restarted id handler
    | fillBuffer => exact work_keep handling hids id handler
  | push endpoint observer => exact work_push handling slots endpoint observer
  | stop =>
    rw [worker, state_done, effects_done_nil]
    exact .stopped
  | count => exact .counted

namespace Work

variable {slots left : List (Slot η)} {job : ServerJob η ω} {effects : List (ServerEffect η ω)}

/-- The identifiers that are left were there in this order, but for a new one behind them. -/
theorem ids_left (h : Work slots job left effects) :
    (ids left).Sublist (ids slots) ∨ ∃ id ∉ ids slots, ids left = ids slots ++ [id] := by
  cases h with
  | restarted | underflow | broken | pair | stopped => exact .inl (List.nil_sublist _)
  | kept id handler hnew => exact .inr ⟨id, hnew, List.map_append⟩
  | replaced id handler before after old hslots hid =>
    refine .inl ?_
    rw [hslots, ids, ids, List.map_append, List.map_append]
    exact .refl _
  | pushed endpoint observer first rest told hslots =>
    rw [hslots]
    exact .inl (List.sublist_cons_self _ _)
  | counted => exact .inl (.refl _)

/-- Every handler that waited or came with the job still waits, or was called, or was dropped. -/
theorem perm_handlers (h : Work slots job left effects) :
    (handlers slots ++ job.handler?.toList).Perm
      (handlers left ++ (answered effects ++ dropped effects)) := by
  cases h with
  | restarted id handler =>
    rw [answered_append, dropped_append, answered_drop, dropped_drop]
    show (handlers slots ++ [handler]).Perm ([handler] ++ (handlers slots ++ []))
    rw [List.append_nil]
    exact List.perm_append_comm
  | kept id handler hnew =>
    rw [handlers, handlers, List.map_append]
    exact .of_eq (List.append_nil _).symm
  | replaced id handler before after old hslots hid =>
    rw [hslots, handlers, handlers, List.map_append, List.map_append, List.map_cons, List.map_cons,
      List.append_assoc, List.append_assoc]
    apply List.Perm.append_left
    have hnew := (List.perm_append_singleton handler (after.map (·.handler))).cons old.handler
    have hold := (List.perm_append_singleton old.handler (after.map (·.handler))).symm.cons handler
    exact hnew.trans ((List.Perm.swap _ _ _).trans hold)
  | underflow endpoint observer told hslots =>
    rw [hslots, answered_tell, dropped_tell]
    exact .refl _
  | broken endpoint observer first last hslots =>
    rw [hslots]
    exact List.Perm.swap _ _ _
  | pair endpoint observer first last told hslots =>
    rw [hslots, answered_append, dropped_append, answered_tell, dropped_tell]
    exact List.Perm.swap _ _ _
  | pushed endpoint observer first rest told hslots =>
    rw [hslots, answered_append, dropped_append, answered_tell, dropped_tell]
    show (first.handler :: handlers left ++ []).Perm (handlers left ++ [first.handler])
    rw [List.append_nil]
    exact (List.perm_append_singleton first.handler (handlers left)).symm
  | stopped =>
    rw [answered_drop, dropped_drop]
    exact .of_eq (List.append_nil _)
  | counted => exact .of_eq rfl

/-- Every slot that was there or was asked for is still there or has left in one way. -/
theorem length_slots (h : Work slots job left effects) :
    slots.length + (if job.fills then 1 else 0) = left.length + gone effects := by
  cases h with
  | restarted id handler =>
    rw [gone_append, gone_drop, handlers, List.length_map]
    show slots.length + 0 = 0 + (slots.length + 0)
    rw [Nat.zero_add]
  | kept id handler hnew =>
    rw [List.length_append]
    rfl
  | replaced id handler before after old hslots hid =>
    rw [hslots, List.length_append, List.length_append]
    rfl
  | underflow endpoint observer told hslots =>
    rw [hslots, gone_tell]
    rfl
  | broken endpoint observer first last hslots =>
    rw [hslots]
    rfl
  | pair endpoint observer first last told hslots =>
    rw [hslots, gone_append, gone_tell]
    rfl
  | pushed endpoint observer first rest told hslots =>
    rw [hslots, gone_append, gone_tell]
    rfl
  | stopped =>
    rw [gone_drop, handlers, List.length_map]
    exact Nat.add_comm _ _
  | counted => rfl

end Work

end Window

end PacketTunnel.Ipc
