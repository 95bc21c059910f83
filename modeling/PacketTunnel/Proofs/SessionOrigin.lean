import PacketTunnel.Proofs.EngineCensus
import PacketTunnel.Proofs.SessionIndex

/-!
# Where sessions come from

A session belongs to the engine that ran when it was created. Its number is never given again, and
its entry is gone once that engine was shut down. So every session that is there belongs to the
engine that runs.
-/

namespace PacketTunnel

namespace Session.Table

variable {κ : Type}

/-- A datagram goes to a session that is there or to a new one, which gets the next number. -/
theorem send_cases (t : Table) (endpoint : Net.Endpoint) (datagram : Packet) (completion : κ) :
    (t.send endpoint datagram completion).1 = t ∧
      (∀ id generation target interface,
        .create id generation target interface ∉ (t.send endpoint datagram completion).2.2) ∨
    (t.send endpoint datagram completion).1.ids = t.ids ++ [t.nextId] ∧
      (t.send endpoint datagram completion).1.nextId = t.nextId + 1 ∧
      ∀ id generation target interface,
        .create id generation target interface ∈ (t.send endpoint datagram completion).2.2 →
          id = t.nextId := by
  rw [send, serve]
  rcases t.sessionFor? endpoint with _ | served
  · refine .inr ⟨List.map_append, rfl, fun id generation target interface h => ?_⟩
    rcases List.mem_append.mp h with hnew | hold
    · exact (Effect.create.inj (List.mem_singleton.mp hnew)).1
    · split at hold
      · cases List.mem_singleton.mp hold
      · cases hold
  · refine .inl ⟨rfl, fun id generation target interface h => ?_⟩
    dsimp only [List.nil_append] at h
    split at h
    · cases List.mem_singleton.mp h
    · cases h

/-- An event of a session creates none, and gives none another number. -/
theorem apply_quiet (t : Table) (e : Entry) (event : Event) :
    (t.apply (κ := κ) e event).1.ids ⊆ t.ids ∧ (t.apply (κ := κ) e event).1.nextId = t.nextId ∧
      ∀ id generation target interface,
        .create id generation target interface ∉ (t.apply (κ := κ) e event).2.2 := by
  have hnone (id generation : Nat) (target : Net.Endpoint) (interface : Option String) :
      .create id generation target interface ∉ ([] : List (Effect κ)) := List.not_mem_nil
  have hupdate {change : Entry → Entry} (h : ∀ e, (change e).id = e.id) :
      (t.update e.id change).ids ⊆ t.ids := by
    rw [ids_update t e.id h]
    exact List.Subset.refl _
  cases event with
  | state state =>
    cases state with
    | ready | preparing | failed => exact ⟨hupdate fun _ => rfl, rfl, hnone⟩
    | cancelled =>
      have hremoved : (t.remove e).ids ⊆ t.ids := List.map_subset _ List.filter_sublist.subset
      exact ⟨hremoved, rfl, hnone⟩
  | viable => exact ⟨hupdate fun _ => rfl, rfl, hnone⟩
  | betterPath =>
    refine ⟨hupdate fun _ => rfl, rfl, fun id generation target interface h => ?_⟩
    rcases List.mem_cons.mp h with heq | h
    · exact absurd heq nofun
    · exact absurd (List.mem_singleton.mp h) nofun
  | datagrams | readError => exact ⟨List.Subset.refl _, rfl, hnone⟩

theorem notify_quiet (t : Table) (n : Notification) :
    (t.notify (κ := κ) n).1.ids ⊆ t.ids ∧ (t.notify (κ := κ) n).1.nextId = t.nextId ∧
      ∀ id generation target interface,
        .create id generation target interface ∉ (t.notify (κ := κ) n).2.2 := by
  have hsame : t.ids ⊆ t.ids ∧ t.nextId = t.nextId ∧ ∀ id generation target interface,
      .create id generation target interface ∉ ([] : List (Effect κ)) :=
    ⟨List.Subset.refl _, rfl, fun _ _ _ _ => List.not_mem_nil⟩
  rw [notify]
  split
  · exact hsame
  · split
    · exact t.apply_quiet _ n.event
    · exact hsame

end Session.Table

namespace Bridge

open Session

variable {φ σ : Type}

/-- Whether an effect creates the session of a number. -/
def Effect.Creates (id : Nat) : Effect → Prop
  | .session (.create created _ _ _) => created = id
  | _ => False

theorem Effect.Creates.exists_session {id : Nat} {x : Effect} (h : x.Creates id) :
    ∃ generation target interface, x = .session (.create id generation target interface) := by
  cases x with
  | session effect =>
    cases effect with
    | create created generation target interface =>
      obtain rfl : created = id := h
      exact ⟨generation, target, interface, rfl⟩
    | upgrade | write | cancel => exact h.elim
  | engine | post | readHost | writeHost | started | traffic | sessions => exact h.elim

variable {k : Kind φ σ} {workshop : φ}

/-- Whether a session was created while the engine of a number ran. -/
def CreatedUnder (k : Kind φ σ) (workshop : φ) (done : List Effect) (id number : Nat) : Prop :=
  ∃ before x rest, done = before ++ x :: rest ∧ x.Creates id ∧
    (Census.of k workshop before).live = [number]

theorem createdUnder_append {done effects : List Effect} {id number : Nat}
    (h : CreatedUnder k workshop (done ++ effects) id number) :
    CreatedUnder k workshop done id number ∨
      ∃ before x rest, effects = before ++ x :: rest ∧ x.Creates id ∧
        (Census.of k workshop (done ++ before)).live = [number] := by
  obtain ⟨before, x, rest, heq, hx, hlive⟩ := h
  rcases List.append_eq_append_iff.mp heq with ⟨more, rfl, heffects⟩ | ⟨more, hdone, heffects⟩
  · exact .inr ⟨more, x, rest, heffects, hx, hlive⟩
  · cases more with
    | nil =>
      rw [List.append_nil] at hdone
      refine .inr ⟨[], x, rest, heffects.symm, hx, ?_⟩
      rw [List.append_nil, hdone]
      exact hlive
    | cons y more =>
      obtain ⟨rfl, -⟩ := List.cons.inj heffects
      exact .inl ⟨before, x, more, hdone, hx, hlive⟩

/-- Effects that neither set up an engine nor create a session. -/
def Effect.Routine : Effect → Prop
  | .engine _ (.init _ _) | .session (.create _ _ _ _) => False
  | _ => True

theorem Effect.Creates.not_routine {id : Nat} {x : Effect} (h : x.Creates id) : ¬x.Routine := by
  obtain ⟨generation, target, interface, rfl⟩ := h.exists_session
  exact not_false

theorem Effect.Plain.routine {x : Effect} (h : x.Plain) : x.Routine := by
  cases x with
  | readHost | writeHost | traffic | sessions => exact trivial
  | engine | post | session | started => exact h.elim

theorem EngineCall.Use.routine {call : EngineCall} (h : call.Use) (number : Nat) :
    (Effect.engine number call).Routine := by
  cases call with
  | host | tunnel | tick => exact trivial
  | init | shutdown | drop => exact h.elim

theorem routine_posts (epoch : Nat) (output : List Emission) :
    ∀ x ∈ Actor.posts epoch output, x.Routine := by
  intro x hx
  obtain ⟨emission, -, rfl⟩ := List.mem_map.mp hx
  exact trivial

theorem routine_cancels (a : Actor φ σ) : ∀ x ∈ a.cancels, x.Routine := by
  intro x hx
  obtain ⟨effect, heffect, rfl⟩ := List.mem_map.mp hx
  obtain ⟨entry, -, rfl⟩ := mem_cancelAll heffect
  exact trivial

theorem routine_shutDown (live : Live σ) (output : List Emission) :
    ∀ x ∈ live.shutDown output, x.Routine :=
  List.forall_mem_append.mpr ⟨List.forall_mem_cons.mpr ⟨trivial, routine_posts _ output⟩,
    List.forall_mem_singleton.mpr trivial⟩

namespace Actor.Move

variable {a b : Actor φ σ} {effects : List Effect} {broken : Bool} {x : Effect} {id : Nat}

/-- What a move does is routine, but for an attempt to set up an engine, which has the next number
and opens an epoch, and a session that is created for a datagram and has the next number, too. -/
theorem effect_cases (h : a.Move k effects broken b) (hx : x ∈ effects) : x.Routine ∨
    (∃ params, x = .engine a.attempts (.init (a.epoch + 1) params)) ∧ b.epoch = a.epoch + 1 ∨
    (∃ generation target interface,
      x = .session (.create a.table.nextId generation target interface)) ∧
      b.table.nextId = a.table.nextId + 1 ∧ ∀ y ∈ effects, ∃ effect, y = .session effect := by
  have hattempt {params : EngineParams} {output : List Emission}
      (hmem : x ∈ a.attempted params output) : x.Routine ∨
      ∃ params, x = .engine a.attempts (.init (a.epoch + 1) params) := by
    rcases List.mem_cons.mp hmem with rfl | hpost
    · exact .inr ⟨params, rfl⟩
    · exact .inl (routine_posts _ _ x hpost)
  cases h with
  | plain effects traffic hplain => exact .inl (hplain x hx).routine
  | cleared => exact .inl (routine_cancels a x hx)
  | closed live output | closeBroken live output =>
    rcases List.mem_append.mp hx with hcancel | hshut
    · exact .inl (routine_cancels a x hcancel)
    · exact .inl (routine_shutDown live output x hshut)
  | unfit =>
    rw [List.mem_singleton.mp hx]
    exact .inl trivial
  | started workshop params output =>
    rcases List.mem_append.mp hx with hmem | hend
    · exact (hattempt hmem).imp_right fun h => .inl ⟨h, rfl⟩
    · rcases List.mem_cons.mp hend with rfl | hend
      · exact .inl trivial
      · rw [List.mem_singleton.mp hend]
        exact .inl trivial
  | refused workshop params output =>
    rcases List.mem_append.mp hx with hmem | hend
    · exact (hattempt hmem).imp_right fun h => .inl ⟨h, rfl⟩
    · rw [List.mem_singleton.mp hend]
      exact .inl trivial
  | initBroken workshop params output => exact (hattempt hx).imp_right fun h => .inl ⟨h, rfl⟩
  | called live call output state hengine huse =>
    rcases List.mem_cons.mp hx with rfl | hpost
    · exact .inl (huse.routine live.number)
    · exact .inl (routine_posts _ _ x hpost)
  | callBroken live call output hengine huse =>
    rcases List.mem_append.mp hx with hmem | hdrop
    · rcases List.mem_cons.mp hmem with rfl | hpost
      · exact .inl (huse.routine live.number)
      · exact .inl (routine_posts _ _ x hpost)
    · rw [List.mem_singleton.mp hdrop]
      exact .inl trivial
  | sent live endpoint datagram tag =>
    obtain ⟨effect, heffect, rfl⟩ := List.mem_map.mp hx
    cases effect with
    | upgrade | write | cancel => exact .inl trivial
    | create created generation target interface =>
      rcases a.table.send_cases endpoint datagram tag with ⟨-, hnone⟩ | ⟨-, hnext, hid⟩
      · exact (hnone _ _ _ _ heffect).elim
      · refine .inr (.inr ⟨⟨generation, target, interface, hid _ _ _ _ heffect ▸ rfl⟩, hnext, ?_⟩)
        intro y hy
        obtain ⟨effect, -, rfl⟩ := List.mem_map.mp hy
        exact ⟨effect, rfl⟩
  | notified live n =>
    obtain ⟨effect, heffect, rfl⟩ := List.mem_map.mp hx
    cases effect with
    | upgrade | write | cancel => exact .inl trivial
    | create => exact ((a.table.notify_quiet n).2.2 _ _ _ _ heffect).elim

/-- A session is created with the next number, and engines are left alone then. -/
theorem of_creates (h : a.Move k effects broken b) (hmem : x ∈ effects) (hx : x.Creates id) :
    id = a.table.nextId ∧ b.table.nextId = a.table.nextId + 1 ∧ ∀ y ∈ effects, y.Neutral := by
  rcases h.effect_cases hmem with hroutine | ⟨⟨params, rfl⟩, -⟩ |
    ⟨⟨generation, target, interface, rfl⟩, hnext, hsession⟩
  · exact absurd hroutine hx.not_routine
  · exact hx.elim
  · refine ⟨hx.symm, hnext, fun y hy => ?_⟩
    obtain ⟨effect, rfl⟩ := hsession y hy
    exact trivial

/-- A session that is there was there before, or has the number that was the next one. -/
theorem mem_ids (h : a.Move k effects broken b) (hid : id ∈ b.table.ids) : id ∈ a.table.ids ∨
    id = a.table.nextId ∧ b.table.nextId = a.table.nextId + 1 := by
  cases h with
  | plain | unfit | started | refused | initBroken | called | callBroken => exact .inl hid
  | cleared | closed | closeBroken =>
    have hnone : a.cleared.table.ids = [] := a.table.ids_cancelAll
    exact absurd (hnone ▸ hid) List.not_mem_nil
  | sent live endpoint datagram tag =>
    rcases a.table.send_cases endpoint datagram tag with ⟨hsame, -⟩ | ⟨hids, hnext, -⟩
    · rw [hsame] at hid
      exact .inl hid
    · rw [hids] at hid
      rcases List.mem_append.mp hid with hold | hnew
      · exact .inl hold
      · exact .inr ⟨List.mem_singleton.mp hnew, hnext⟩
  | notified live n => exact .inl ((a.table.notify_quiet n).1 hid)

theorem nextId_le (h : a.Move k effects broken b) : a.table.nextId ≤ b.table.nextId := by
  cases h with
  | plain | unfit | started | refused | initBroken | called | callBroken => exact Nat.le_refl _
  | cleared | closed | closeBroken =>
    exact Nat.le_of_eq (a.table.frame_cancelAll (κ := WriteTag)).2.1.symm
  | sent live endpoint datagram tag =>
    rcases a.table.send_cases endpoint datagram tag with ⟨hsame, -⟩ | ⟨-, hnext, -⟩
    · exact Nat.le_of_eq (congrArg Table.nextId hsame).symm
    · rw [hnext]
      exact Nat.le_succ _
  | notified live n => exact Nat.le_of_eq (a.table.notify_quiet n).2.1.symm

/-- An engine that runs after a move ran before it, under the same number and epoch, or was set up
in a new epoch when none ran. -/
theorem engine_cases (h : a.Move k effects broken b) {live : Live σ}
    (hlive : b.engine = some live) :
    (∃ previous, a.engine = some previous ∧ live.number = previous.number ∧
      live.epoch = previous.epoch ∧ b.epoch = a.epoch) ∨
    a.engine = none ∧ live.number = a.attempts ∧ live.epoch = b.epoch ∧ b.epoch = a.epoch + 1 := by
  cases h with
  | plain | sent | notified => exact .inl ⟨live, hlive, rfl, rfl, rfl⟩
  | cleared hengine | unfit _ hengine | refused _ _ _ hengine _ | initBroken _ _ _ hengine _ =>
    exact absurd (hlive.symm.trans hengine) (Option.some_ne_none _)
  | closed | closeBroken | callBroken => exact absurd hlive.symm (Option.some_ne_none _)
  | started workshop params output state interface hengine =>
    obtain rfl := Option.some.inj hlive
    exact .inr ⟨hengine, rfl, rfl, rfl⟩
  | called previous call output state hengine =>
    obtain rfl := Option.some.inj hlive
    exact .inl ⟨previous, hengine, rfl, rfl, rfl⟩

end Actor.Move

/-- Every session that is there belongs to the engine that runs. -/
structure Origin (k : Kind φ σ) (workshop : φ) (done : List Effect) (a : Actor φ σ) : Prop where
  /-- The next number is new. -/
  created : ∀ id number, CreatedUnder k workshop done id number → id < a.table.nextId
  /-- No session that is there has it. -/
  ids : ∀ id ∈ a.table.ids, id < a.table.nextId
  /-- Whatever engine ran when a session that is there was created runs still. -/
  running : ∀ id ∈ a.table.ids, ∀ number, CreatedUnder k workshop done id number →
    (Census.of k workshop done).live = [number]

theorem origin_idle (k : Kind φ σ) (workshop : φ) : Origin k workshop [] (.idle workshop) where
  created id number h := by
    obtain ⟨before, x, rest, heq, -⟩ := h
    exact absurd heq.symm (List.append_ne_nil_of_right_ne_nil _ (List.cons_ne_nil _ _))
  ids _ h := absurd h List.not_mem_nil
  running _ h := absurd h List.not_mem_nil

theorem Origin.move {done effects : List Effect} {a b : Actor φ σ} (h : Origin k workshop done a)
    (hfits : (Census.of k workshop done).Fits a) (hmove : a.Move k effects false b) :
    Origin k workshop (done ++ effects) b := by
  have hafter := (hfits.move hmove).2 rfl
  rw [← Census.of_append] at hafter
  refine ⟨fun id number hcreated => ?_, fun id hid => ?_, fun id hid number hcreated => ?_⟩
  · rcases createdUnder_append hcreated with hold | ⟨before, x, rest, rfl, hx, -⟩
    · exact Nat.lt_of_lt_of_le (h.created id number hold) hmove.nextId_le
    · obtain ⟨rfl, hnext, -⟩ := hmove.of_creates
        (List.mem_append_right _ List.mem_cons_self) hx
      rw [hnext]
      exact Nat.lt_succ_self _
  · rcases hmove.mem_ids hid with hold | ⟨rfl, hnext⟩
    · exact Nat.lt_of_lt_of_le (h.ids id hold) hmove.nextId_le
    · rw [hnext]
      exact Nat.lt_succ_self _
  · rcases createdUnder_append hcreated with hold | ⟨before, x, rest, rfl, hx, hlive⟩
    · have hthere : id ∈ a.table.ids := (hmove.mem_ids hid).resolve_right fun hnew =>
        Nat.lt_irrefl _ (hnew.1 ▸ h.created id number hold)
      have hlive := h.running id hthere number hold
      rcases hengine : b.engine with _ | live
      · rw [Session.Table.ids, hafter.cleared hengine] at hid
        exact absurd hid List.not_mem_nil
      · rcases hmove.engine_cases hengine with ⟨previous, hprevious, hnumber, -⟩ | ⟨hnone, -⟩
        · rw [hafter.live_eq hengine, hnumber, ← hfits.live_eq hprevious]
          exact hlive
        · rw [hfits.live_nil hnone] at hlive
          exact absurd hlive.symm (List.cons_ne_nil _ _)
    · have hneutral := (hmove.of_creates (List.mem_append_right _ List.mem_cons_self) hx).2.2
      have hbefore : ∀ y ∈ before, y.Neutral := fun y hy =>
        hneutral y (List.mem_append_left _ hy)
      rw [Census.of_append, Census.foldl_neutral hbefore] at hlive
      rw [Census.of_append, Census.foldl_neutral hneutral]
      exact hlive

end Bridge

end PacketTunnel
