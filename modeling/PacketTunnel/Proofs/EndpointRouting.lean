import PacketTunnel.Proofs.StaleEvents

/-!
# Where datagrams go

The handles that are set up for an endpoint follow one another, and only the latest can be current.
So what is written to them, handle by handle, is what was sent to the endpoint, in order and with
nothing left out. A session is created when there is none to an endpoint that a datagram is sent to,
and then only; while there is one, it is used whatever the network says about its state. A factory
without upgrades of its own is asked to create a session for a better path, too.

An endpoint is told from others by all that it consists of. Flow labels count: what is sent to one
place under two of them goes to two sessions, and the order between these is not kept.
-/

namespace PacketTunnel.Session

open Net

variable {κ : Type}

/-- What an effect writes, with the generation of the handle that it is written to. -/
def Effect.written? : Effect κ → Option (Nat × Packet × κ)
  | .write generation datagram completion => some (generation, datagram, completion)
  | .create _ _ _ _ | .upgrade _ _ _ _ | .cancel _ => none

/-- What was written, in order. -/
def writes (effects : List (Effect κ)) : List (Nat × Packet × κ) :=
  effects.filterMap Effect.written?

/-- What was written to a handle, in order. -/
def writtenTo (effects : List (Effect κ)) (g : Nat) : List (Packet × κ) :=
  ((writes effects).filter (·.1 = g)).map (·.2)

/-- The generations of the handles that were set up for an endpoint, in order. -/
def handlesFor (endpoint : Endpoint) (effects : List (Effect κ)) : List Nat :=
  ((made effects).filter (·.endpoint = endpoint)).map (·.generation)

/-- The endpoint for which an effect has a factory create a session. A plain factory has no upgrades
of its own, and creates a session in the place of one. -/
def Effect.asked? (plain : Bool) : Effect κ → Option Endpoint
  | .create _ _ endpoint _ => some endpoint
  | .upgrade _ _ endpoint _ => if plain then some endpoint else none
  | .write _ _ _ | .cancel _ => none

/-- The endpoints for which a factory is asked to create sessions, in order. -/
def asks (plain : Bool) (effects : List (Effect κ)) : List Endpoint :=
  effects.filterMap (Effect.asked? plain)

/-- What a call sends to an endpoint. -/
def Call.sentTo? (endpoint : Endpoint) : Call κ → Option (Packet × κ)
  | .send destination datagram completion =>
    if destination = endpoint then some (datagram, completion) else none
  | .notify _ | .demand _ | .cancelAll => none

/-- What was sent to an endpoint, in order. -/
def sentTo (endpoint : Endpoint) (record : List (Worked κ)) : List (Packet × κ) :=
  record.filterMap (·.call.sentTo? endpoint)

/-- Whether a live session serves an endpoint. -/
def Table.Serves (t : Table) (endpoint : Endpoint) : Prop := ∃ x ∈ t.handles, x.endpoint = endpoint

instance (t : Table) (endpoint : Endpoint) : Decidable (t.Serves endpoint) :=
  inferInstanceAs (Decidable (∃ x ∈ t.handles, _))

/-- Whether a call is a reason for a factory to create a session for an endpoint: a datagram is sent
to it that no live session serves or, if the factory is plain, the current handle for it reports a
better path. -/
def Worked.Wants (w : Worked κ) (plain : Bool) (endpoint : Endpoint) : Prop :=
  (∃ datagram completion, w.call = .send endpoint datagram completion) ∧
      ¬w.before.Serves endpoint ∨
    plain = true ∧ ∃ x ∈ w.before.handles, x.endpoint = endpoint ∧
      w.call = .notify (x.reports .betterPath)

section Append

variable (effects more : List (Effect κ)) (endpoint : Endpoint) (g : Nat)

theorem writes_append : writes (effects ++ more) = writes effects ++ writes more :=
  List.filterMap_append

theorem writtenTo_append :
    writtenTo (effects ++ more) g = writtenTo effects g ++ writtenTo more g := by
  rw [writtenTo, writes_append, List.filter_append, List.map_append]
  rfl

theorem handlesFor_append :
    handlesFor endpoint (effects ++ more) =
      handlesFor endpoint effects ++ handlesFor endpoint more := by
  rw [handlesFor, made_append, List.filter_append, List.map_append]
  rfl

theorem sentTo_snoc (record : List (Worked κ)) (w : Worked κ) : sentTo endpoint (record ++ [w]) =
    sentTo endpoint record ++ (w.call.sentTo? endpoint).toList := by
  rw [sentTo, List.filterMap_append]
  cases hsent : w.call.sentTo? endpoint <;> simp [sentTo, hsent]

end Append

section Mem

variable {effects : List (Effect κ)} {endpoint : Endpoint} {g : Nat}

theorem mem_handlesFor : g ∈ handlesFor endpoint effects ↔
    ∃ x ∈ made effects, x.endpoint = endpoint ∧ x.generation = g := by
  simp [handlesFor, and_assoc]

theorem writtenTo_eq_nil (h : ∀ p ∈ writes effects, p.1 ≠ g) : writtenTo effects g = [] := by
  rw [writtenTo, List.map_eq_nil_iff, List.filter_eq_nil_iff]
  simpa using h

end Mem

theorem Table.not_serves {t : Table} {endpoint : Endpoint}
    (h : ∀ e ∈ t.entries, e.endpoint ≠ endpoint) : ¬t.Serves endpoint := by
  rintro ⟨x, hx, rfl⟩
  obtain ⟨e, he, rfl⟩ := List.mem_map.mp hx
  exact h e he rfl

/-- What comes last to the last of several handles comes last of all. -/
theorem flatMap_append_last {α β : Type} [DecidableEq α] {l : List α} (hnodup : l.Nodup) {a : α}
    (hlast : l.getLast? = some a) (f : α → List β) (more : List β) :
    l.flatMap (fun b => f b ++ if a = b then more else []) = l.flatMap f ++ more := by
  obtain ⟨before, rfl⟩ := List.getLast?_eq_some_iff.mp hlast
  have hne : ∀ b ∈ before, a ≠ b := by
    rintro b hb rfl
    exact (List.nodup_append.mp hnodup).2.2 a hb a List.mem_cons_self rfl
  have hbefore :
      before.flatMap (fun b => f b ++ if a = b then more else []) = before.flatMap f := by
    refine List.flatMap_congr fun b hb => ?_
    rw [if_neg (hne b hb), List.append_nil]
  simp [hbefore]

namespace Worked

variable {w : Worked κ} {plain : Bool} {endpoint : Endpoint}

/-- A datagram is a reason for the endpoint that it is sent to. -/
theorem wants_send {destination : Endpoint} {datagram : Packet} {completion : κ}
    (hcall : w.call = .send destination datagram completion) :
    w.Wants plain endpoint ↔ endpoint = destination ∧ ¬w.before.Serves endpoint := by
  rw [Wants, hcall]
  constructor
  · rintro (⟨⟨_, _, hsend⟩, hserves⟩ | ⟨-, _, -, -, hnotify⟩)
    · exact ⟨(Call.send.inj hsend).1.symm, hserves⟩
    · cases hnotify
  · rintro ⟨rfl, hserves⟩
    exact .inl ⟨⟨datagram, completion, rfl⟩, hserves⟩

/-- A report is a reason for the endpoint of its handle, if it is of a better path. -/
theorem wants_notify {n : Notification} (hcall : w.call = .notify n) :
    w.Wants plain endpoint ↔
      plain = true ∧ ∃ x ∈ w.before.handles, x.endpoint = endpoint ∧ n = x.reports .betterPath := by
  rw [Wants, hcall]
  simp only [reduceCtorEq, exists_false, false_and, false_or, Call.notify.injEq]

theorem not_wants_demand {interface : Option String} (hcall : w.call = .demand interface) :
    ¬w.Wants plain endpoint := by
  rw [Wants, hcall]
  rintro (⟨⟨_, _, hsend⟩, -⟩ | ⟨-, _, -, -, hnotify⟩)
  · cases hsend
  · cases hnotify

theorem not_wants_cancelAll (hcall : w.call = .cancelAll) : ¬w.Wants plain endpoint := by
  rw [Wants, hcall]
  rintro (⟨⟨_, _, hsend⟩, -⟩ | ⟨-, _, -, -, hnotify⟩)
  · cases hsend
  · cases hnotify

end Worked

namespace Worked.Move

variable {w : Worked κ}

/-- A call sets up at most one handle, which is current afterwards. -/
theorem made_cases (h : w.Move) (hindexed : w.before.Indexed) :
    made w.effects = [] ∨ ∃ x ∈ w.after.handles, made w.effects = [x] := by
  obtain ⟨-, handles, -, hone, -, -, hissued, -⟩ := h.numbers
  have hlength := congrArg List.length hissued
  rw [issued, List.length_map, List.length_range'] at hlength
  have hsubset := h.made_subset hindexed
  rcases hmade : made w.effects with _ | ⟨x, _ | ⟨y, rest⟩⟩
  · exact .inl rfl
  · exact .inr ⟨x, hsubset (by simp [hmade]), rfl⟩
  · simp only [hmade, List.length_cons] at hlength
    omega

/-- A datagram goes to the session that serves its endpoint, or to a new one. -/
theorem of_send (h : w.Move) {endpoint : Endpoint} {datagram : Packet} {completion : κ}
    (hcall : w.call = .send endpoint datagram completion) :
    (∃ x ∈ w.before.handles, x.endpoint = endpoint ∧ w.after = w.before ∧
      w.effects = [.write x.generation datagram completion]) ∨
    ¬w.before.Serves endpoint ∧
      w.effects = [.create w.before.nextId w.before.nextGeneration endpoint
        w.before.requiredInterface, .write w.before.nextGeneration datagram completion] := by
  cases h with
  | ignored | heard | migrated | lost | demanded | cleared => cases hcall
  | @reused t e he =>
    cases hcall
    exact .inl ⟨e.handle, List.mem_map_of_mem he, rfl, rfl, rfl⟩
  | @opened t endpoint hnew =>
    cases hcall
    exact .inr ⟨Table.not_serves hnew, rfl⟩

/-- A session is created only for a datagram to an endpoint that no session serves. -/
theorem of_create (h : w.Move) {session generation : Nat} {endpoint : Endpoint}
    {interface : Option String} (hmem : .create session generation endpoint interface ∈ w.effects) :
    (∃ datagram completion, w.call = .send endpoint datagram completion) ∧
      ¬w.before.Serves endpoint := by
  cases h with
  | reused | ignored | heard | migrated | lost | demanded => simp at hmem
  | @opened t destination hnew datagram completion =>
    simp only [List.mem_cons, Effect.create.injEq, reduceCtorEq, List.not_mem_nil, or_false] at hmem
    obtain ⟨-, -, rfl, -⟩ := hmem
    exact ⟨⟨datagram, completion, rfl⟩, Table.not_serves hnew⟩
  | cleared t horder =>
    obtain ⟨e, -, heq⟩ := mem_cancelAll (horder.subset hmem)
    cases heq

/-- A factory is asked to create a session if there is a reason for it, and never two on one
call. -/
theorem asks_cases (h : w.Move) (hindexed : w.before.Indexed) (plain : Bool) :
    (asks plain w.effects).length ≤ 1 ∧
      ∀ endpoint, endpoint ∈ asks plain w.effects ↔ w.Wants plain endpoint := by
  have hnone (hasks : asks plain w.effects = []) (hwants : ∀ endpoint, ¬w.Wants plain endpoint) :
      (asks plain w.effects).length ≤ 1 ∧
        ∀ endpoint, endpoint ∈ asks plain w.effects ↔ w.Wants plain endpoint := by
    rw [hasks]
    exact ⟨Nat.zero_le 1, fun endpoint => iff_of_false List.not_mem_nil (hwants endpoint)⟩
  cases h with
  | @reused t e he =>
    refine hnone rfl fun endpoint hwants => ?_
    obtain ⟨rfl, hserves⟩ := (wants_send rfl).mp hwants
    exact hserves ⟨e.handle, List.mem_map_of_mem he, rfl⟩
  | @opened t destination hnew =>
    refine ⟨Nat.le_refl 1, fun endpoint => ?_⟩
    rw [wants_send rfl]
    refine List.mem_singleton.trans ⟨?_, And.left⟩
    rintro rfl
    exact ⟨rfl, Table.not_serves hnew⟩
  | @ignored t n hstale =>
    refine hnone rfl fun endpoint hwants => ?_
    obtain ⟨-, x, hx, -, rfl⟩ := (wants_notify rfl).mp hwants
    obtain ⟨e, he, rfl⟩ := List.mem_map.mp hx
    exact hstale ⟨e, he, rfl, rfl⟩
  | heard he hkeeps =>
    refine hnone rfl fun endpoint hwants => ?_
    obtain ⟨-, x, -, -, hreports⟩ := (wants_notify rfl).mp hwants
    obtain ⟨-, -, rfl⟩ := Notification.mk.inj hreports
    exact hkeeps
  | @migrated t e he =>
    have hcurrent : e.handle ∈ t.handles := List.mem_map_of_mem he
    cases plain with
    | false =>
      exact hnone rfl fun endpoint hwants => Bool.false_ne_true ((wants_notify rfl).mp hwants).1
    | true =>
      refine ⟨Nat.le_refl 1, fun endpoint => ?_⟩
      rw [wants_notify rfl]
      refine List.mem_singleton.trans ⟨?_, ?_⟩
      · rintro rfl
        exact ⟨rfl, e.handle, hcurrent, rfl, rfl⟩
      · rintro ⟨-, x, hx, rfl, hreports⟩
        obtain ⟨hsession, -, -⟩ := Notification.mk.inj hreports
        rw [← hindexed.handle_eq_of_session hcurrent hx hsession]
        rfl
  | lost =>
    refine hnone rfl fun endpoint hwants => ?_
    obtain ⟨-, x, -, -, hreports⟩ := (wants_notify rfl).mp hwants
    obtain ⟨-, -, hevent⟩ := Notification.mk.inj hreports
    cases hevent
  | demanded => exact hnone rfl fun _ => not_wants_demand rfl
  | cleared t horder =>
    refine hnone (List.filterMap_eq_nil_iff.mpr fun x hx => ?_) fun _ => not_wants_cancelAll rfl
    obtain ⟨e, -, rfl⟩ := mem_cancelAll (horder.subset hx)
    rfl

/-- What the network says about the state of a session leaves it with its handle. -/
theorem of_keeps (h : w.Move) {n : Notification} (hkeeps : n.event.Keeps)
    (hcall : w.call = .notify n) : w.after.handles = w.before.handles ∧ w.effects = [] := by
  cases h with
  | reused | opened | demanded | cleared => cases hcall
  | ignored => exact ⟨rfl, rfl⟩
  | @heard t e he event _ change hchange => exact ⟨t.handles_update _ hchange, rfl⟩
  | migrated =>
    cases hcall
    exact hkeeps.elim
  | lost =>
    cases hcall
    exact hkeeps.elim

/-- What is sent to an endpoint is written to the current handle for it, and nothing else is
written. -/
theorem writes_cases (h : w.Move) :
    (∀ endpoint, w.call.sentTo? endpoint = none) ∧ writes w.effects = [] ∨
      ∃ x ∈ w.after.handles, ∃ datagram completion,
        w.call = .send x.endpoint datagram completion ∧
          writes w.effects = [(x.generation, datagram, completion)] := by
  cases h with
  | ignored | heard | migrated | lost | demanded => exact .inl ⟨fun _ => rfl, rfl⟩
  | @reused t e he datagram completion =>
    exact .inr ⟨e.handle, List.mem_map_of_mem he, datagram, completion, rfl, rfl⟩
  | @opened t endpoint hnew datagram completion =>
    refine .inr ⟨⟨t.nextId, t.nextGeneration, endpoint⟩, ?_, datagram, completion, rfl, rfl⟩
    rw [t.handles_create]
    exact List.mem_append_right _ List.mem_cons_self
  | @cleared t cancels horder =>
    refine .inl ⟨fun _ => rfl, List.filterMap_eq_nil_iff.mpr fun x hx => ?_⟩
    obtain ⟨e, -, rfl⟩ := mem_cancelAll (horder.subset hx)
    rfl

end Worked.Move

namespace History

variable {record : List (Worked κ)} {w : Worked κ} {t : Table} {x : Handle} {endpoint : Endpoint}

/-- The handles for an endpoint have generations of their own. -/
theorem nodup_handlesFor (h : History record t) (endpoint : Endpoint) :
    (handlesFor endpoint (effectsOf record)).Nodup :=
  h.nodup_issued.sublist (List.filter_sublist.map _)

/-- A handle is for one endpoint only. -/
theorem endpoint_eq (h : History record t) (hx : x ∈ made (effectsOf record))
    (hmem : x.generation ∈ handlesFor endpoint (effectsOf record)) : x.endpoint = endpoint := by
  obtain ⟨y, hy, rfl, heq⟩ := mem_handlesFor.mp hmem
  rw [h.handle_eq hx hy heq.symm]

/-- The current handle for an endpoint is the latest that was set up for it. -/
theorem getLast?_handlesFor (h : History record t) (hx : x ∈ t.handles) :
    (handlesFor x.endpoint (effectsOf record)).getLast? = some x.generation := by
  induction h generalizing x with
  | nil => simp [Table.handles, Table.empty] at hx
  | @snoc record w h hsound ih =>
    have hmove := hsound.move h.indexed
    have hbefore (hmade : x ∉ made w.effects) : x ∈ w.before.handles :=
      (hmove.of_handle h.indexed hx).resolve_right hmade
    rw [effectsOf_snoc, handlesFor_append]
    rcases hmove.made_cases h.indexed with hnone | ⟨y, hy, hone⟩
    · have hmore : handlesFor x.endpoint w.effects = [] := by simp [handlesFor, hnone]
      rw [hmore, List.append_nil]
      exact ih (hbefore (by simp [hnone]))
    · have hmore : handlesFor x.endpoint w.effects =
          if y.endpoint = x.endpoint then [y.generation] else [] := by
        rw [handlesFor, hone]
        by_cases hendpoint : y.endpoint = x.endpoint <;> simp [hendpoint]
      rw [hmore]
      split
      next hendpoint =>
        rw [(hmove.indexed h.indexed).handle_eq_of_endpoint hy hx hendpoint]
        exact List.getLast?_concat
      next hendpoint =>
        rw [List.append_nil]
        refine ih (hbefore ?_)
        rw [hone, List.mem_singleton]
        exact fun heq => hendpoint (heq ▸ rfl)

/-- Datagrams are written to handles that were set up before. -/
theorem writes_issued (h : History record t) :
    ∀ p ∈ writes (effectsOf record), p.1 ∈ issued (effectsOf record) := by
  induction h with
  | nil => simp [writes, effectsOf]
  | @snoc record w h hsound ih =>
    intro p hp
    rw [effectsOf_snoc, writes_append, List.mem_append] at hp
    rcases hp with hp | hp
    · rw [effectsOf_snoc, issued_append]
      exact List.mem_append_left _ (ih p hp)
    · rcases (hsound.move h.indexed).writes_cases with ⟨-, hnone⟩ | ⟨x, hx, _, _, -, hone⟩
      · simp [hnone] at hp
      · rw [hone, List.mem_singleton] at hp
        exact hp ▸ List.mem_map_of_mem ((h.snoc hsound).handles_subset hx)

/-- Nothing was written before to a handle that is set up only now. -/
theorem writtenTo_of_new (h : History (record ++ [w]) t) {g : Nat}
    (hg : g ∈ handlesFor endpoint w.effects) : writtenTo (effectsOf record) g = [] := by
  obtain ⟨x, hx, -, rfl⟩ := mem_handlesFor.mp hg
  have hapart := h.nodup_issued
  rw [effectsOf_snoc, issued_append] at hapart
  refine writtenTo_eq_nil fun p hp => ?_
  exact (List.nodup_append.mp hapart).2.2 p.1 (h.at_call.1.writes_issued p hp) _
    (List.mem_map_of_mem hx)

/-- What a call sends to an endpoint goes to the last of the handles for it. -/
theorem flatMap_writtenTo (h : History (record ++ [w]) t) (endpoint : Endpoint)
    (f : Nat → List (Packet × κ)) :
    (handlesFor endpoint (effectsOf (record ++ [w]))).flatMap
        (fun g => f g ++ writtenTo w.effects g) =
      (handlesFor endpoint (effectsOf (record ++ [w]))).flatMap f ++
        (w.call.sentTo? endpoint).toList := by
  rcases h.move.writes_cases with ⟨hcall, hnone⟩ | ⟨x, hx, d, c, hcall, hone⟩
  · have hwritten (g : Nat) : writtenTo w.effects g = [] := writtenTo_eq_nil (by simp [hnone])
    simp [hwritten, hcall]
  have hwritten (g : Nat) : writtenTo w.effects g = if x.generation = g then [(d, c)] else [] := by
    rw [writtenTo, hone]
    by_cases hsame : x.generation = g <;> simp [hsame]
  obtain rfl := h.eq_after
  simp only [hwritten, hcall, Call.sentTo?]
  split
  next hendpoint =>
    subst hendpoint
    exact flatMap_append_last (h.nodup_handlesFor _) (h.getLast?_handlesFor hx) f [(d, c)]
  next hendpoint =>
    rw [Option.toList_none, List.append_nil]
    refine List.flatMap_congr fun g hg => ?_
    have hne : x.generation ≠ g := by
      rintro rfl
      exact hendpoint (h.endpoint_eq (h.handles_subset hx) hg)
    rw [if_neg hne, List.append_nil]

/-- What was written to the handles for an endpoint, one after the other, is what was sent to it. -/
theorem written_eq_sentTo (h : History record t) (endpoint : Endpoint) :
    (handlesFor endpoint (effectsOf record)).flatMap (writtenTo (effectsOf record)) =
      sentTo endpoint record := by
  induction h with
  | nil => rfl
  | @snoc record w h hsound ih =>
    have hall := h.snoc hsound
    have hnew : (handlesFor endpoint w.effects).flatMap (writtenTo (effectsOf record)) = [] :=
      List.flatMap_eq_nil_iff.mpr fun g hg => hall.writtenTo_of_new hg
    calc (handlesFor endpoint (effectsOf (record ++ [w]))).flatMap
          (writtenTo (effectsOf (record ++ [w])))
      _ = (handlesFor endpoint (effectsOf (record ++ [w]))).flatMap
          (fun g => writtenTo (effectsOf record) g ++ writtenTo w.effects g) :=
        List.flatMap_congr fun g _ => by rw [effectsOf_snoc, writtenTo_append]
      _ = (handlesFor endpoint (effectsOf (record ++ [w]))).flatMap
          (writtenTo (effectsOf record)) ++ (w.call.sentTo? endpoint).toList :=
        hall.flatMap_writtenTo endpoint _
      _ = sentTo endpoint record ++ (w.call.sentTo? endpoint).toList := by
        rw [effectsOf_snoc, handlesFor_append, List.flatMap_append, ih, hnew, List.append_nil]
      _ = sentTo endpoint (record ++ [w]) := (sentTo_snoc endpoint record w).symm

/-- A current handle was not cancelled. -/
theorem not_mem_cancelled (h : History record t) (hx : x ∈ t.handles) :
    x.generation ∉ cancelled (effectsOf record) := by
  have hnodup := h.perm_issued.nodup_iff.mp h.nodup_issued
  intro hmem
  exact (List.nodup_append.mp hnodup).2.2 _ (Table.generation_mem hx) _
    (List.mem_append_left _ hmem) rfl

/-- What is sent is written to a handle for its endpoint alone, which was not cancelled. -/
theorem exists_written {before after : List (Worked κ)} (h : History (before ++ w :: after) t)
    {datagram : Packet} {completion : κ} (hcall : w.call = .send endpoint datagram completion) :
    ∃ g, writes w.effects = [(g, datagram, completion)] ∧
      g ∈ handlesFor endpoint (effectsOf (before ++ [w])) ∧
      (∀ other, g ∈ handlesFor other (effectsOf (before ++ w :: after)) → other = endpoint) ∧
      g ∉ cancelled (effectsOf (before ++ [w])) := by
  obtain ⟨-, -, hthere⟩ := h.at_call
  rcases h.move.writes_cases with ⟨hnone, -⟩ | ⟨x, hx, _, _, hsent, hone⟩
  · simpa [hcall, Call.sentTo?] using hnone endpoint
  obtain ⟨rfl, rfl, rfl⟩ := Call.send.inj (hcall.symm.trans hsent)
  have hmade := hthere.handles_subset hx
  refine ⟨x.generation, hone, mem_handlesFor.mpr ⟨x, hmade, rfl, rfl⟩, fun other hother => ?_,
    hthere.not_mem_cancelled hx⟩
  refine (h.endpoint_eq ?_ hother).symm
  rw [← List.singleton_append, ← List.append_assoc, effectsOf, List.flatMap_append, made_append]
  exact List.mem_append_left _ hmade

end History

/-- Where the datagrams of a run go. -/
structure Routed (record : List (Worked κ)) : Prop where
  /-- What was written to the handles that were set up for an endpoint, one handle after the other,
  is what was sent to it, in order and each with its own completion. -/
  order : ∀ endpoint, (handlesFor endpoint (effectsOf record)).flatMap
    (writtenTo (effectsOf record)) = sentTo endpoint record
  /-- What is sent is written at once, to a handle that was set up for this endpoint and for no
  other, and that was not cancelled. -/
  written : ∀ before w after, record = before ++ w :: after →
    ∀ endpoint datagram completion, w.call = .send endpoint datagram completion →
      ∃ g, writes w.effects = [(g, datagram, completion)] ∧
        g ∈ handlesFor endpoint (effectsOf (before ++ [w])) ∧
        (∀ other, g ∈ handlesFor other (effectsOf record) → other = endpoint) ∧
        g ∉ cancelled (effectsOf (before ++ [w]))
  /-- Nothing else is written. -/
  sent : ∀ w ∈ record, writes w.effects ≠ [] →
    ∃ endpoint datagram completion, w.call = .send endpoint datagram completion
  /-- A session is created for an endpoint just when a datagram is sent to it that no live session
  serves. -/
  created : ∀ w ∈ record, ∀ endpoint,
    (∃ session generation interface, .create session generation endpoint interface ∈ w.effects) ↔
      (∃ datagram completion, w.call = .send endpoint datagram completion) ∧
        ¬w.before.Serves endpoint
  /-- And it is one session, with the numbers that are next and the interface that is demanded. -/
  opened : ∀ w ∈ record, ∀ endpoint datagram completion,
    w.call = .send endpoint datagram completion → ¬w.before.Serves endpoint →
      w.effects = [.create w.before.nextId w.before.nextGeneration endpoint
        w.before.requiredInterface, .write w.before.nextGeneration datagram completion]
  /-- A factory is asked to create a session just then. If it is plain it is asked for one when the
  current handle for an endpoint reports a better path, too; and never for two at once. -/
  asked : ∀ w ∈ record, ∀ plain, (asks plain w.effects).length ≤ 1 ∧
    ∀ endpoint, endpoint ∈ asks plain w.effects ↔ w.Wants plain endpoint
  /-- Where a live session serves an endpoint, it is used, whatever its state. -/
  reused : ∀ w ∈ record, ∀ x ∈ w.before.handles, ∀ datagram completion,
    w.call = .send x.endpoint datagram completion →
      w.after = w.before ∧ w.effects = [.write x.generation datagram completion]
  /-- To hear of its state, that it failed for one, leaves a session with its handle. -/
  kept : ∀ w ∈ record, ∀ n : Notification, n.event.Keeps → w.call = .notify n →
    w.after.handles = w.before.handles ∧ w.effects = []
  /-- A session lives on, for its endpoint, until its handle reports that it was cancelled or every
  session is cancelled. -/
  lives : ∀ w ∈ record, ∀ x ∈ w.before.handles,
    (∃ y ∈ w.after.handles, y.session = x.session ∧ y.endpoint = x.endpoint) ∨
      w.Loses x ∨ w.Clears x

/-- Every run routes its datagrams. -/
theorem routed_run {record : List (Worked κ)} {t : Table} (h : History record t) :
    Routed record := by
  refine ⟨h.written_eq_sentTo, ?_, ?_, ?_, ?_, ?_, ?_, ?_, ?_⟩
  · rintro before w after rfl endpoint datagram completion hcall
    exact h.exists_written hcall
  · intro w hw hwrites
    obtain ⟨x, -, datagram, completion, hcall, -⟩ :=
      (h.of_mem hw).1.writes_cases.resolve_left fun hnone => hwrites hnone.2
    exact ⟨x.endpoint, datagram, completion, hcall⟩
  · intro w hw endpoint
    constructor
    · rintro ⟨session, generation, interface, hmem⟩
      exact (h.of_mem hw).1.of_create hmem
    · rintro ⟨⟨datagram, completion, hcall⟩, hserves⟩
      rcases (h.of_mem hw).1.of_send hcall with ⟨x, hx, hendpoint, -⟩ | ⟨-, heffects⟩
      · exact absurd ⟨x, hx, hendpoint⟩ hserves
      · exact ⟨_, _, _, heffects ▸ List.mem_cons_self⟩
  · intro w hw endpoint datagram completion hcall hserves
    rcases (h.of_mem hw).1.of_send hcall with ⟨x, hx, hendpoint, -⟩ | ⟨-, heffects⟩
    · exact absurd ⟨x, hx, hendpoint⟩ hserves
    · exact heffects
  · intro w hw plain
    obtain ⟨hmove, hindexed⟩ := h.of_mem hw
    exact hmove.asks_cases hindexed plain
  · intro w hw x hx datagram completion hcall
    rcases (h.of_mem hw).1.of_send hcall with ⟨y, hy, hendpoint, hsame, heffects⟩ | ⟨hserves, -⟩
    · obtain rfl := (h.of_mem hw).2.handle_eq_of_endpoint hy hx hendpoint
      exact ⟨hsame, heffects⟩
    · exact absurd ⟨x, hx, rfl⟩ hserves
  · intro w hw n hkeeps hcall
    exact (h.of_mem hw).1.of_keeps hkeeps hcall
  · intro w hw x hx
    obtain ⟨hmove, hindexed⟩ := h.of_mem hw
    by_cases hafter : x ∈ w.after.handles
    · exact .inl ⟨x, hafter, rfl, rfl⟩
    rcases (hmove.ends_iff hindexed hx).mpr hafter with hends | hends
    · obtain ⟨-, -, y, hy, hsession, hendpoint, -⟩ := hends
      exact .inl ⟨y, hy, hsession, hendpoint⟩
    · exact .inr hends

/-- Three handles were set up for one endpoint and two for the other, and nothing that was sent is
missing. -/
theorem routed_course :
    handlesFor near (effectsOf (Table.empty.run course).1) = [1, 3, 5] ∧
    handlesFor far (effectsOf (Table.empty.run course).1) = [2, 4] ∧
    sentTo near (Table.empty.run course).1 = [([1], 0), ([3], 2), ([7], 5)] ∧
    sentTo far (Table.empty.run course).1 = [([2], 1), ([4], 3), ([5], 4)] ∧
    Routed (Table.empty.run course).1 :=
  ⟨by decide, by decide, by decide, by decide, routed_run (history_run course)⟩

/-- The generations of the handles that were set up for a place, under any flow label, in order. -/
def handlesAt (place : Endpoint) (effects : List (Effect κ)) : List Nat :=
  ((made effects).filter (·.endpoint.unlabelled = place)).map (·.generation)

/-- What a call sends to a place. -/
def Call.sentAt? (place : Endpoint) : Call κ → Option (Packet × κ)
  | .send destination datagram completion =>
    if destination.unlabelled = place then some (datagram, completion) else none
  | .notify _ | .demand _ | .cancelAll => none

/-- Whether what was written to the handles for a place, one handle after the other, is what was
sent to it, in order. -/
def OrderedByPlace (record : List (Worked κ)) : Prop :=
  ∀ place, (handlesAt place (effectsOf record)).flatMap (writtenTo (effectsOf record)) =
    record.filterMap (·.call.sentAt? place)

/-- Whether a factory is asked to create a session for a place just when a datagram is sent to it
that no live session serves. -/
def AskedByPlace (plain : Bool) (record : List (Worked κ)) : Prop :=
  ∀ w ∈ record, ∀ place, place ∈ (asks plain w.effects).map Endpoint.unlabelled ↔
    (w.call.sentAt? place).isSome ∧ ∀ x ∈ w.before.handles, x.endpoint.unlabelled ≠ place

/-- One place, under a flow label. -/
def labelled (flow : UInt32) : Endpoint :=
  .v6 (.ofGroups [0xfe80, 0, 0, 0, 0, 0, 0, 1]) 51820 flow 3

/-- Datagrams are sent to one place under two flow labels in turns. -/
def turns : List (Call Nat) :=
  [.send (labelled 0) [1] 0, .send (labelled 7) [2] 1, .send (labelled 0) [3] 2]

/-- Were flow labels not to count, order would be lost and sessions created that are there already;
and a plain factory is asked to create a session for a better path, when nothing is sent. -/
theorem not_routed_by_place : ¬OrderedByPlace (Table.empty.run turns).1 ∧
    ¬AskedByPlace false (Table.empty.run turns).1 ∧
    ¬AskedByPlace true (Table.empty.run course).1 := by
  refine ⟨fun h => absurd (h (labelled 0)) (by decide), fun h => ?_, fun h => ?_⟩
  · -- the second datagram finds the session of the first, and yet another one is created
    have hserved := (h _ (List.getElem_mem (n := 1) (by decide)) (labelled 0)).mp (by decide)
    exact hserved.2 ⟨1, 1, labelled 0⟩ (by decide) rfl
  · -- the third call is no send
    have hsent := (h _ (List.getElem_mem (n := 2) (by decide)) near).mp (by decide)
    exact absurd hsent.1 (by decide)

end PacketTunnel.Session
