import PacketTunnel.Proofs.SessionIndex

/-!
# Runs of a session table

A run is a series of calls on a table that was empty at first, on record with what was done about
each and with the table before and after it. When every session is cancelled nothing says in which
order; a run may take any. What a call comes to is told once, in terms of the sessions that are
live, so that what is kept by each of these moves is kept by every run.
-/

namespace PacketTunnel.Session

open Net

variable {κ : Type}

/-- A handle, by what it was set up for. -/
structure Handle where
  /-- The session. -/
  session : Nat
  /-- The generation, which no other handle has. -/
  generation : Nat
  /-- The endpoint that datagrams go to. -/
  endpoint : Endpoint
  deriving DecidableEq, Repr

/-- An event, as a handle reports it. -/
def Handle.reports (x : Handle) (event : Event) : Notification := ⟨x.session, x.generation, event⟩

/-- The current handle of a session. -/
def Entry.handle (e : Entry) : Handle := ⟨e.id, e.generation, e.endpoint⟩

/-- Whether an event leaves the session that it is about with its handle. -/
def Event.Keeps : Event → Prop
  | .state .ready | .state .preparing | .state .failed => True
  | .viable _ | .datagrams _ | .readError _ => True
  | .state .cancelled | .betterPath => False

/-- The datagrams that an event is about. -/
def Event.datagrams? : Event → Option (List Packet)
  | .datagrams packets => some packets
  | .state _ | .betterPath | .viable _ | .readError _ => none

/-- The handle that an effect sets up. -/
def Effect.handle? : Effect κ → Option Handle
  | .create session generation endpoint _ => some ⟨session, generation, endpoint⟩
  | .upgrade session generation endpoint _ => some ⟨session, generation, endpoint⟩
  | .write _ _ _ | .cancel _ => none

/-- The number of the session whose first handle an effect sets up. -/
def Effect.created? : Effect κ → Option Nat
  | .create session _ _ _ => some session
  | .upgrade _ _ _ _ | .write _ _ _ | .cancel _ => none

/-- The generation of the handle that an effect cancels. -/
def Effect.cancelled? : Effect κ → Option Nat
  | .cancel generation => some generation
  | .create _ _ _ _ | .upgrade _ _ _ _ | .write _ _ _ => none

/-- The handles that were set up, in order. -/
def made (effects : List (Effect κ)) : List Handle := effects.filterMap Effect.handle?

/-- The generations of the handles that were set up, in order. -/
def issued (effects : List (Effect κ)) : List Nat := (made effects).map (·.generation)

/-- The numbers of the sessions that were created, in order. -/
def created (effects : List (Effect κ)) : List Nat := effects.filterMap Effect.created?

/-- The generations of the handles that were cancelled, in order. -/
def cancelled (effects : List (Effect κ)) : List Nat := effects.filterMap Effect.cancelled?

/-- A call on a session table. -/
inductive Call (κ : Type) where
  /-- Send a datagram to an endpoint. -/
  | send (endpoint : Endpoint) (datagram : Packet) (completion : κ)
  /-- Take up what a handle reported. -/
  | notify (n : Notification)
  /-- Demand an interface for new handles. -/
  | demand (interface : Option String)
  /-- Cancel every session. -/
  | cancelAll
  deriving DecidableEq, Repr

/-- A call that was worked on. -/
structure Worked (κ : Type) where
  /-- The call. -/
  call : Call κ
  /-- The table that it found. -/
  before : Table
  /-- The table that it left. -/
  after : Table
  /-- The datagrams that came in, if it was about any. -/
  datagrams : Option (List Packet)
  /-- What was to be done with handles. -/
  effects : List (Effect κ)
  deriving DecidableEq, Repr

namespace Table

/-- The current handles, in the order of their sessions. -/
def handles (t : Table) : List Handle := t.entries.map Entry.handle

/-- Whether a notification is by the current handle of a live session. -/
def Heeds (t : Table) (n : Notification) : Prop :=
  ∃ e ∈ t.entries, e.id = n.session ∧ e.generation = n.generation

instance (t : Table) (n : Notification) : Decidable (t.Heeds n) :=
  inferInstanceAs (Decidable (∃ e ∈ t.entries, _))

/-- Work on a call, for the record. -/
def worked (t : Table) (c : Call κ) : Worked κ :=
  match c with
  | .send endpoint datagram completion =>
    let (after, _, effects) := t.send endpoint datagram completion
    ⟨c, t, after, none, effects⟩
  | .notify n =>
    let (after, datagrams, effects) := t.notify n
    ⟨c, t, after, datagrams, effects⟩
  | .demand interface => ⟨c, t, t.withInterface interface, none, []⟩
  | .cancelAll =>
    let (after, effects) := t.cancelAll
    ⟨c, t, after, none, effects⟩

/-- Work on calls one after the other: the record, and the table afterwards. -/
def run (t : Table) : List (Call κ) → List (Worked κ) × Table
  | [] => ([], t)
  | c :: rest =>
    let (record, last) := (t.worked c).after.run rest
    (t.worked c :: record, last)

/-- What any other handle reports is not applied. -/
theorem notify_of_not_heeds {t : Table} {n : Notification} (hstale : ¬t.Heeds n) :
    t.notify (κ := κ) n = (t, none, []) :=
  notify_of_forall_ne fun e he hid heq => hstale ⟨e, he, hid, heq⟩

theorem generations_eq (t : Table) : t.generations = t.handles.map (·.generation) := by
  rw [generations, handles, List.map_map]
  rfl

/-- A change that leaves handles alone. -/
theorem handles_update (t : Table) (id : Nat) {change : Entry → Entry}
    (h : ∀ e, (change e).handle = e.handle) : (t.update id change).handles = t.handles := by
  rw [handles, update, List.map_map]
  refine List.map_congr_left fun e _ => ?_
  rw [Function.comp_apply]
  split
  · exact h e
  · rfl

/-- A new session comes with a handle. -/
theorem handles_create (t : Table) (endpoint : Endpoint) : (t.create (κ := κ) endpoint).1.handles =
    t.handles ++ [⟨t.nextId, t.nextGeneration, endpoint⟩] := List.map_append

/-- A handle on a better path takes the place of the one before. -/
theorem Indexed.handles_migrate {t : Table} (h : t.Indexed) {e : Entry} (he : e ∈ t.entries) :
    ∃ l r, t.handles = l ++ e.handle :: r ∧
      (t.migrate (κ := κ) e).1.handles = l ++ ⟨e.id, t.nextGeneration, e.endpoint⟩ :: r := by
  obtain ⟨l, r, hsplit, hother⟩ := h.split he
  have hentries := entries_update hsplit hother fun x =>
    { x with generation := t.nextGeneration, ready := false, viable := true }
  refine ⟨l.map Entry.handle, r.map Entry.handle, ?_, ?_⟩
  · rw [handles, hsplit, List.map_append, List.map_cons]
  · have hmigrated : (t.migrate (κ := κ) e).1.handles = (t.update e.id fun x =>
        { x with generation := t.nextGeneration, ready := false, viable := true }).handles := rfl
    rw [hmigrated, handles, hentries, List.map_append, List.map_cons]
    rfl

/-- The handle of a session goes with it. -/
theorem Indexed.handles_remove {t : Table} (h : t.Indexed) {e : Entry} (he : e ∈ t.entries) :
    ∃ l r, t.handles = l ++ e.handle :: r ∧ (t.remove e).handles = l ++ r := by
  obtain ⟨l, r, hsplit, hother⟩ := h.split he
  refine ⟨l.map Entry.handle, r.map Entry.handle, ?_, ?_⟩
  · rw [handles, hsplit, List.map_append, List.map_cons]
  · rw [handles, entries_remove hsplit hother, List.map_append]

/-- Where every session is cancelled, no handle is current any more. -/
theorem handles_cancelAll (t : Table) : (t.cancelAll (κ := κ)).1.handles = [] := by
  rw [handles, entries_cancelAll, List.map_nil]

end Table

namespace Worked

/-- Whether a table may have worked on a call like this. Where sessions are live, handles are
cancelled in any order; where none is, all is left as it is. -/
inductive Sound : Worked κ → Prop where
  /-- A datagram is sent. -/
  | send (t : Table) (endpoint : Endpoint) (datagram : Packet) (completion : κ) :
    Sound ⟨.send endpoint datagram completion, t, (t.send endpoint datagram completion).1, none,
      (t.send endpoint datagram completion).2.2⟩
  /-- A report is taken up. -/
  | notify (t : Table) (n : Notification) :
    Sound ⟨.notify n, t, (t.notify (κ := κ) n).1, (t.notify (κ := κ) n).2.1, (t.notify n).2.2⟩
  /-- An interface is demanded. -/
  | demand (t : Table) (interface : Option String) :
    Sound ⟨.demand interface, t, t.withInterface interface, none, []⟩
  /-- There is no session to cancel. -/
  | cancelNone (t : Table) (hnone : t.entries = []) : Sound ⟨.cancelAll, t, t, none, []⟩
  /-- Every session is cancelled. -/
  | cancelAll (t : Table) {cancels : List (Effect κ)} (hsome : t.entries ≠ [])
    (horder : cancels.Perm t.cancelAll.2) :
    Sound ⟨.cancelAll, t, (t.cancelAll (κ := κ)).1, none, cancels⟩

/-- What a call comes to, in terms of the sessions that are live. -/
inductive Move : Worked κ → Prop where
  /-- A datagram goes to the session that serves its endpoint. -/
  | reused {t : Table} {e : Entry} (he : e ∈ t.entries) (datagram : Packet) (completion : κ) :
    Move ⟨.send e.endpoint datagram completion, t, t, none,
      [.write e.generation datagram completion]⟩
  /-- A datagram goes to a new session. -/
  | opened {t : Table} {endpoint : Endpoint} (hnew : ∀ e ∈ t.entries, e.endpoint ≠ endpoint)
    (datagram : Packet) (completion : κ) :
    Move ⟨.send endpoint datagram completion, t, (t.create (κ := κ) endpoint).1, none,
      [.create t.nextId t.nextGeneration endpoint t.requiredInterface,
        .write t.nextGeneration datagram completion]⟩
  /-- A report is not by the current handle of a live session. -/
  | ignored {t : Table} {n : Notification} (hstale : ¬t.Heeds n) : Move ⟨.notify n, t, t, none, []⟩
  /-- A session is told about. -/
  | heard {t : Table} {e : Entry} (he : e ∈ t.entries) {event : Event} (hkeeps : event.Keeps)
    {change : Entry → Entry} (hchange : ∀ x, (change x).handle = x.handle) :
    Move ⟨.notify (e.handle.reports event), t, t.update e.id change, event.datagrams?, []⟩
  /-- A session has a handle on a better path. -/
  | migrated {t : Table} {e : Entry} (he : e ∈ t.entries) :
    Move ⟨.notify (e.handle.reports .betterPath), t, (t.migrate (κ := κ) e).1, none,
      [.upgrade e.id t.nextGeneration e.endpoint t.requiredInterface, .cancel e.generation]⟩
  /-- A session was cancelled by the network. -/
  | lost {t : Table} {e : Entry} (he : e ∈ t.entries) :
    Move ⟨.notify (e.handle.reports (.state .cancelled)), t, t.remove e, none, []⟩
  /-- An interface is demanded. -/
  | demanded (t : Table) (interface : Option String) :
    Move ⟨.demand interface, t, t.withInterface interface, none, []⟩
  /-- Every session is cancelled. -/
  | cleared (t : Table) {cancels : List (Effect κ)} (horder : cancels.Perm t.cancelAll.2) :
    Move ⟨.cancelAll, t, (t.cancelAll (κ := κ)).1, none, cancels⟩

/-- To apply what the current handle of a session reports is a move. -/
theorem move_apply {t : Table} {e : Entry} (he : e ∈ t.entries) (event : Event) :
    Move (κ := κ) ⟨.notify (e.handle.reports event), t, (t.apply (κ := κ) e event).1,
      (t.apply (κ := κ) e event).2.1, (t.apply e event).2.2⟩ := by
  have hheard (event : Event) (hkeeps : event.Keeps) (change : Entry → Entry)
      (hchange : ∀ x, (change x).handle = x.handle) :
      Move (κ := κ) ⟨.notify (e.handle.reports event), t, t.update e.id change,
        event.datagrams?, []⟩ :=
    .heard he hkeeps hchange
  have hsame (event : Event) (hkeeps : event.Keeps) :
      Move (κ := κ) ⟨.notify (e.handle.reports event), t, t, event.datagrams?, []⟩ := by
    have hmove := hheard event hkeeps (fun x => x) fun _ => rfl
    rwa [t.update_id] at hmove
  cases event with
  | state state =>
    cases state with
    | preparing => exact hheard (.state .preparing) trivial _ fun _ => rfl
    | ready => exact hheard (.state .ready) trivial _ fun _ => rfl
    | failed => exact hheard (.state .failed) trivial _ fun _ => rfl
    | cancelled => exact .lost he
  | betterPath => exact .migrated he
  | viable viable => exact hheard (.viable viable) trivial _ fun _ => rfl
  | datagrams datagrams => exact hsame (.datagrams datagrams) trivial
  | readError reason => exact hsame (.readError reason) trivial

/-- Every call on a table that is in line is a move. -/
theorem Sound.move {w : Worked κ} (h : w.Sound) (hindexed : w.before.Indexed) : w.Move := by
  cases h with
  | send t endpoint datagram completion =>
    by_cases hserved : ∃ e ∈ t.entries, e.endpoint = endpoint
    · obtain ⟨e, he, rfl⟩ := hserved
      rw [hindexed.send_of_mem he]
      exact .reused he datagram completion
    · have hnew : ∀ e ∈ t.entries, e.endpoint ≠ endpoint := fun e he heq => hserved ⟨e, he, heq⟩
      rw [hindexed.send_of_forall_ne hnew]
      exact .opened hnew datagram completion
  | notify t n =>
    by_cases hheeds : t.Heeds n
    · obtain ⟨e, he, hid, hgeneration⟩ := hheeds
      obtain ⟨session, generation, event⟩ := n
      obtain rfl : e.id = session := hid
      obtain rfl : e.generation = generation := hgeneration
      rw [hindexed.notify_of_mem he]
      exact move_apply he event
    · rw [Table.notify_of_not_heeds hheeds]
      exact .ignored hheeds
  | demand t interface => exact .demanded t interface
  | cancelNone t hnone =>
    have hcleared := Table.cancelAll_of_entries_eq_nil (κ := κ) hnone
    have horder : ([] : List (Effect κ)).Perm t.cancelAll.2 := by rw [hcleared]
    have hmove := Move.cleared t horder
    rwa [hcleared] at hmove
  | cancelAll t _ horder => exact .cleared t horder

/-- What the current handle of a session reports is applied. -/
theorem Sound.of_report {w : Worked κ} (h : w.Sound) (hindexed : w.before.Indexed) {e : Entry}
    (he : e ∈ w.before.entries) {event : Event}
    (hcall : w.call = .notify (e.handle.reports event)) :
    w.after = (w.before.apply (κ := κ) e event).1 ∧
      w.datagrams = (w.before.apply (κ := κ) e event).2.1 ∧
      w.effects = (w.before.apply e event).2.2 := by
  cases h with
  | notify t n =>
    obtain rfl : n = e.handle.reports event := Call.notify.inj hcall
    have hnotify : t.notify (κ := κ) (e.handle.reports event) = t.apply e event :=
      hindexed.notify_of_mem he event
    simp only [hnotify, and_self]
  | send | demand | cancelNone | cancelAll => cases hcall

/-- What any other handle reports leaves everything as it is. -/
theorem Sound.of_stale {w : Worked κ} (h : w.Sound) {n : Notification}
    (hstale : ¬w.before.Heeds n) (hcall : w.call = .notify n) :
    w.after = w.before ∧ w.datagrams = none ∧ w.effects = [] := by
  cases h with
  | notify t m =>
    obtain rfl : m = n := Call.notify.inj hcall
    have hnotify : t.notify (κ := κ) m = (t, none, []) := Table.notify_of_not_heeds hstale
    simp only [hnotify, and_self]
  | send | demand | cancelNone | cancelAll => cases hcall

/-- A table stays in line. -/
theorem Move.indexed {w : Worked κ} (h : w.Move) (hindexed : w.before.Indexed) :
    w.after.Indexed := by
  cases h with
  | reused | ignored => exact hindexed
  | opened hnew => exact hindexed.create (κ := κ) hnew
  | @heard t e he event _ change hchange =>
    obtain ⟨hid, hgeneration, hendpoint⟩ := Handle.mk.inj (hchange e)
    exact hindexed.update he hid hendpoint hgeneration
  | migrated he => exact hindexed.migrate (κ := κ) he
  | lost he => exact hindexed.remove he
  | demanded => exact ⟨hindexed.1, hindexed.2, hindexed.3, hindexed.4, hindexed.5, hindexed.6⟩
  | cleared => exact hindexed.cancelAll (κ := κ)

end Worked

/-- The calls that a table has seen, and what they made of it. -/
inductive History : List (Worked κ) → Table → Prop where
  /-- Nothing has happened. -/
  | nil : History [] .empty
  /-- One more call was worked on. -/
  | snoc {record : List (Worked κ)} {w : Worked κ} (h : History record w.before)
    (hsound : w.Sound) : History (record ++ [w]) w.after

/-- To cancel every session, the current handles are cancelled and nothing else is done. -/
theorem mem_cancelAll {t : Table} {x : Effect κ} (h : x ∈ t.cancelAll.2) :
    ∃ e ∈ t.entries, x = .cancel e.generation := by
  rw [Table.effects_cancelAll] at h
  obtain ⟨e, he, rfl⟩ := List.mem_map.mp h
  exact ⟨e, he, rfl⟩

/-- What was done with handles in a run. -/
def effectsOf (record : List (Worked κ)) : List (Effect κ) := record.flatMap (·.effects)

theorem effectsOf_snoc (record : List (Worked κ)) (w : Worked κ) :
    effectsOf (record ++ [w]) = effectsOf record ++ w.effects := by
  simp [effectsOf]

theorem made_append (effects more : List (Effect κ)) :
    made (effects ++ more) = made effects ++ made more := List.filterMap_append

theorem issued_append (effects more : List (Effect κ)) :
    issued (effects ++ more) = issued effects ++ issued more := by
  rw [issued, made_append, List.map_append]
  rfl

theorem created_append (effects more : List (Effect κ)) :
    created (effects ++ more) = created effects ++ created more := List.filterMap_append

theorem cancelled_append (effects more : List (Effect κ)) :
    cancelled (effects ++ more) = cancelled effects ++ cancelled more := List.filterMap_append

namespace History

variable {record before after : List (Worked κ)} {w : Worked κ} {t : Table}

/-- The two sides of a table are in line after every run. -/
theorem indexed (h : History record t) : t.Indexed := by
  induction h with
  | nil => exact .empty
  | snoc _ hsound ih => exact (hsound.move ih).indexed ih

/-- A call of a run found a table that the run had led to, and is the last of a run. -/
theorem at_call (h : History (before ++ w :: after) t) :
    History before w.before ∧ w.Sound ∧ History (before ++ [w]) w.after := by
  generalize hrecord : before ++ w :: after = record at h
  induction h generalizing after with
  | nil => simp at hrecord
  | @snoc record last h hsound ih =>
    rcases List.eq_nil_or_concat after with rfl | ⟨rest, final, rfl⟩
    · obtain ⟨rfl, hw⟩ := List.append_inj' hrecord rfl
      obtain rfl : w = last := by simpa using hw
      exact ⟨h, hsound, h.snoc hsound⟩
    · rw [List.concat_eq_append, ← List.cons_append, ← List.append_assoc] at hrecord
      exact ih (List.append_inj' hrecord rfl).1

/-- A run leads to the table that its last call left. -/
theorem eq_after (h : History (record ++ [w]) t) : t = w.after := by
  generalize hrecord : record ++ [w] = whole at h
  cases h with
  | nil => simp at hrecord
  | snoc => rw [List.singleton_inj.mp (List.append_inj' hrecord rfl).2]

/-- Every call of a run is a move. -/
theorem move (h : History (before ++ w :: after) t) : w.Move :=
  h.at_call.2.1.move h.at_call.1.indexed

/-- So is every call on record, on a table that is in line. -/
theorem of_mem (h : History record t) (hw : w ∈ record) : w.Move ∧ w.before.Indexed := by
  obtain ⟨before, after, rfl⟩ := List.append_of_mem hw
  exact ⟨h.move, h.at_call.1.indexed⟩

end History

/-- What a table does about a call on it is sound. -/
theorem Table.sound_worked (t : Table) (c : Call κ) : (t.worked c).Sound := by
  cases c with
  | send endpoint datagram completion => exact .send t endpoint datagram completion
  | notify n => exact .notify t n
  | demand interface => exact .demand t interface
  | cancelAll =>
    rw [worked]
    by_cases hnone : t.entries = []
    · rw [cancelAll_of_entries_eq_nil hnone]
      exact .cancelNone t hnone
    · exact .cancelAll t hnone (.refl _)

@[simp] theorem Table.before_worked (t : Table) (c : Call κ) : (t.worked c).before = t := by
  cases c <;> rfl

/-- Every call leaves a table in line. -/
theorem Table.Indexed.worked {t : Table} (h : t.Indexed) (c : Call κ) :
    (t.worked c).after.Indexed := by
  have hbefore : (t.worked c).before.Indexed := (t.before_worked c).symm ▸ h
  exact ((t.sound_worked c).move hbefore).indexed hbefore

/-- A history goes on with any calls. -/
theorem History.run {record : List (Worked κ)} {t : Table} (h : History record t)
    (calls : List (Call κ)) : History (record ++ (t.run calls).1) (t.run calls).2 := by
  induction calls generalizing record t with
  | nil => simpa [Table.run] using h
  | cons c rest ih =>
    have hfound : History record (t.worked c).before := by simpa using h
    have hrest := ih (hfound.snoc (t.sound_worked c))
    simpa [Table.run] using hrest

/-- Whatever calls are made on an empty table have a history. -/
theorem history_run (calls : List (Call κ)) :
    History (Table.empty.run calls).1 (Table.empty.run calls).2 := History.nil.run calls

/-- An endpoint nearby. -/
def near : Endpoint := .v4 ⟨10, 0, 0, 1⟩ 51820

/-- An endpoint further off. -/
def far : Endpoint := .v4 ⟨192, 0, 2, 1⟩ 51820

/-- The first session moves to a better path, which its handle announces twice, and that handle
reports its end; the second session fails, is used nevertheless, and is cancelled by the network.
Then every session is cancelled, and again. -/
def course : List (Call Nat) :=
  [.send near [1] 0, .send far [2] 1, .notify ⟨1, 1, .betterPath⟩, .notify ⟨1, 1, .betterPath⟩,
    .notify ⟨1, 1, .state .cancelled⟩, .send near [3] 2, .notify ⟨2, 2, .state .failed⟩,
    .send far [4] 3, .notify ⟨2, 2, .state .cancelled⟩, .send far [5] 4,
    .notify ⟨2, 2, .datagrams [[6]]⟩, .demand (some "en0"), .cancelAll, .cancelAll,
    .send near [7] 5]

end PacketTunnel.Session
