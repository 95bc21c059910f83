import PacketTunnel.Proofs.EndpointRouting
import PacketTunnel.Proofs.EngineConversation

/-!
# The sessions of a bridge

What a bridge does with session handles is what its session table says, so its runs are runs of the
table as well: what is known of these holds of the sessions of a bridge. In particular a datagram
that the engine puts out is written at once, to a handle that was set up for its endpoint.
-/

namespace PacketTunnel

/-- What handles report leads to no writes. -/
theorem Session.Table.writes_notify {κ : Type} (t : Table) (n : Notification) :
    writes (t.notify (κ := κ) n).2.2 = [] := by
  have happly (e : Entry) : writes (t.apply (κ := κ) e n.event).2.2 = [] := by
    rcases n.event with (_ | _ | _ | _) | _ | viable | datagrams | reason <;> rfl
  rw [notify]
  split
  · rfl
  · split
    · exact happly _
    · rfl

namespace Bridge

open Session

variable {φ σ : Type}

/-- What an effect does with a session handle. -/
def Effect.session? : Effect → Option (Session.Effect WriteTag)
  | .session effect => some effect
  | _ => none

/-- What is done with session handles, in order. -/
def sessionsOf (effects : List Effect) : List (Session.Effect WriteTag) :=
  effects.filterMap Effect.session?

/-- What is written to session handles, in order: the handle, the datagram, and what the completion
tells. -/
def written (effects : List Effect) : List (Nat × Packet × WriteTag) := writes (sessionsOf effects)

/-- The endpoint that the handle of a generation was set up for. -/
def endpointOf? (effects : List Effect) (generation : Nat) : Option Net.Endpoint :=
  ((made (sessionsOf effects)).find? (·.generation = generation)).map (·.endpoint)

theorem blind_session : Blind Effect.session? := ⟨fun _ _ => rfl, fun _ => rfl⟩

theorem sessionsOf_append (effects more : List Effect) :
    sessionsOf (effects ++ more) = sessionsOf effects ++ sessionsOf more := List.filterMap_append

theorem written_append (effects more : List Effect) :
    written (effects ++ more) = written effects ++ written more := by
  rw [written, sessionsOf_append, writes_append]
  rfl

@[simp] theorem sessionsOf_sessions (effects : List (Session.Effect WriteTag)) :
    sessionsOf (effects.map .session) = effects := by
  simp [sessionsOf, List.filterMap_map, Function.comp_def, Effect.session?]

theorem sessionsOf_plain {effects : List Effect} (h : ∀ x ∈ effects, x.Plain) :
    sessionsOf effects = [] := by
  refine List.filterMap_eq_nil_iff.mpr fun x hx => ?_
  have hplain := h x hx
  cases x with
  | session => exact hplain.elim
  | engine | post | readHost | writeHost | started | traffic | sessions => rfl

/-- Whether what was done with session handles is what the session table has said. -/
def Linked (done : List Effect) (a : Actor φ σ) : Prop :=
  ∃ record : List (Session.Worked WriteTag),
    History record a.table ∧ Session.effectsOf record = sessionsOf done

namespace Linked

variable {done effects : List Effect} {a b : Actor φ σ}

theorem idle (workshop : φ) : Linked [] (.idle workshop : Actor φ σ) := ⟨[], .nil, rfl⟩

/-- A call on the table. -/
theorem call (h : Linked done a) (c : Call WriteTag) (htable : b.table = (a.table.worked c).after)
    (heffects : sessionsOf effects = (a.table.worked c).effects) :
    Linked (done ++ effects) b := by
  obtain ⟨record, hhistory, hdone⟩ := h
  have hbefore : History record (a.table.worked c).before := by simpa using hhistory
  refine ⟨record ++ [a.table.worked c], ?_, ?_⟩
  · rw [htable]
    exact hbefore.snoc (a.table.sound_worked c)
  · rw [Session.effectsOf_snoc, sessionsOf_append, hdone, heffects]

/-- Whatever leaves the table alone. -/
theorem skip (h : Linked done a) (htable : b.table = a.table) (heffects : sessionsOf effects = []) :
    Linked (done ++ effects) b := by
  obtain ⟨record, hhistory, hdone⟩ := h
  exact ⟨record, htable ▸ hhistory, by rw [sessionsOf_append, heffects, List.append_nil, hdone]⟩

theorem sessionsOf_attempted (a : Actor φ σ) (params : EngineParams) (output : List Emission)
    (rest : List Effect) :
    sessionsOf (a.attempted params output ++ rest) = sessionsOf rest := by
  rw [sessionsOf_append, sessionsOf, Actor.filterMap_attempted blind_session, List.nil_append]

theorem sessionsOf_called (live : Live σ) (call : EngineCall) (output : List Emission)
    (rest : List Effect) : sessionsOf
      (.engine live.number call :: Actor.posts live.epoch output ++ rest) = sessionsOf rest := by
  have hposts : sessionsOf (Actor.posts live.epoch output) = [] :=
    Actor.filterMap_posts blind_session live.epoch output
  rw [sessionsOf_append, sessionsOf, List.filterMap_cons]
  exact congrArg (· ++ sessionsOf rest) hposts

theorem sessionsOf_closed (a : Actor φ σ) (live : Live σ) (output : List Emission) :
    sessionsOf (a.cancels ++ live.shutDown output) = (a.table.cancelAll (κ := WriteTag)).2 := by
  rw [sessionsOf_append, Actor.cancels, sessionsOf_sessions, Live.shutDown, sessionsOf_called]
  exact List.append_nil _

/-- A move leaves it so, also if an engine breaks. -/
theorem move (h : Linked done a) {broken : Bool} (hmove : a.Move k effects broken b) :
    Linked (done ++ effects) b := by
  cases hmove with
  | plain effects traffic hplain => exact h.skip rfl (sessionsOf_plain hplain)
  | cleared => exact h.call .cancelAll rfl (by simp [Actor.cancels, Table.worked])
  | closed live output => exact h.call .cancelAll rfl (sessionsOf_closed a live output)
  | closeBroken live output => exact h.call .cancelAll rfl (sessionsOf_closed a live output)
  | unfit => exact h.skip rfl rfl
  | started workshop params output state interface =>
    refine h.call (.demand interface) rfl ?_
    rw [sessionsOf_attempted]
    rfl
  | refused workshop params output => exact h.skip rfl (sessionsOf_attempted ..)
  | initBroken workshop params output =>
    have hnone := sessionsOf_attempted a params output []
    rw [List.append_nil] at hnone
    exact h.skip rfl hnone
  | called live call output =>
    have hnone := sessionsOf_called live call output []
    rw [List.append_nil] at hnone
    exact h.skip rfl hnone
  | callBroken live call output => exact h.skip rfl (sessionsOf_called ..)
  | sent live endpoint datagram tag =>
    exact h.call (.send endpoint datagram tag) rfl (sessionsOf_sessions _)
  | notified live n => exact h.call (.notify n) rfl (sessionsOf_sessions _)

end Linked

namespace Loop

variable {k : Kind φ σ} {workshop : φ} {period : Nat} {record : List (Worked φ σ)}
  {last : Option (Loop φ σ)} {l : Loop φ σ}

/-- In every run the bridge does with session handles what its table says. -/
theorem Run.linked (h : Run k (fresh workshop period) record (some l)) :
    Linked (effectsOf record) l.actor :=
  h.kept (Linked.idle workshop) fun hbefore hmove => hbefore.move hmove

/-- So every run is a run of a session table. -/
theorem Run.history (h : Run k (fresh workshop period) record last) :
    ∃ (calls : List (Session.Worked WriteTag)) (t : Table),
      History calls t ∧ Session.effectsOf calls = sessionsOf (effectsOf record) := by
  have hend {done effects : List Effect} {a : Actor φ σ} (hlinked : Linked done a)
      (hnone : sessionsOf effects = []) : ∃ (calls : List (Session.Worked WriteTag)) (t : Table),
        History calls t ∧ Session.effectsOf calls = sessionsOf (done ++ effects) := by
    obtain ⟨calls, hhistory, hdone⟩ := hlinked
    exact ⟨calls, _, hhistory, by rw [sessionsOf_append, hnone, List.append_nil, hdone]⟩
  refine h.done (I := Linked) (J := fun done => ∃ (calls : List (Session.Worked WriteTag))
    (t : Table), History calls t ∧ Session.effectsOf calls = sessionsOf done)
    (Linked.idle workshop) (fun hbefore hmove => hbefore.move hmove) ?_ ?_
  · intro done a hlinked
    have hdrop : sessionsOf (dropEngine a) = [] := by
      rw [dropEngine]
      split <;> rfl
    have hnil : sessionsOf [] = [] := rfl
    have hsame := hend hlinked hnil
    rw [List.append_nil] at hsame
    exact ⟨hsame, hend hlinked hdrop⟩
  · intro done a b effects hlinked hmove
    obtain ⟨calls, hhistory, hdone⟩ := hlinked.move hmove
    exact ⟨calls, _, hhistory, hdone⟩

/-- The endpoint of a handle that was set up is known. -/
theorem Run.endpointOf?_eq (h : Run k (fresh workshop period) record last) {x : Handle}
    (hx : x ∈ made (sessionsOf (effectsOf record))) :
    endpointOf? (effectsOf record) x.generation = some x.endpoint := by
  obtain ⟨calls, t, hhistory, hdone⟩ := h.history
  rw [endpointOf?, Option.map_eq_some_iff]
  rcases hfind : (made (sessionsOf (effectsOf record))).find? (·.generation = x.generation)
    with _ | y
  · have hnone := List.find?_eq_none.mp hfind x hx
    simp at hnone
  · have hy := List.mem_of_find?_eq_some hfind
    have hsame : y.generation = x.generation := by simpa using List.find?_some hfind
    rw [← hdone] at hx hy
    exact ⟨y, hfind, congrArg Handle.endpoint (hhistory.handle_eq hy hx hsame)⟩

/-- What is put out for an endpoint is written to a handle that was set up for it. -/
theorem Run.sent (h : Run k (fresh workshop period) record (some l)) (endpoint : Net.Endpoint)
    (datagram : Packet) : ∃ x : Handle, x.endpoint = endpoint ∧
      x ∈ made (sessionsOf (effectsOf record) ++ (l.actor.sending endpoint datagram).2.2) ∧
      writes (l.actor.sending endpoint datagram).2.2 =
        [(x.generation, datagram, ⟨l.actor.epoch, datagram.length⟩)] := by
  obtain ⟨calls, hhistory, hdone⟩ := h.linked
  have hsound := l.actor.table.sound_worked
    (.send endpoint datagram (⟨l.actor.epoch, datagram.length⟩ : WriteTag))
  have hbefore : History calls (l.actor.table.worked
      (.send endpoint datagram (⟨l.actor.epoch, datagram.length⟩ : WriteTag))).before := hhistory
  have hafter := hbefore.snoc hsound
  rcases (hsound.move hhistory.indexed).writes_cases with ⟨hnone, -⟩ |
    ⟨x, hx, found, completion, hcall, hwrites⟩
  · have hsent := hnone endpoint
    simp [Table.worked, Call.sentTo?] at hsent
  · obtain ⟨rfl, rfl, rfl⟩ := Call.send.inj hcall
    have hmade := hafter.handles_subset hx
    rw [Session.effectsOf_snoc, hdone] at hmade
    exact ⟨x, rfl, hmade, hwrites⟩

end Loop

namespace Actor

variable {k : Kind φ σ} {a : Actor φ σ} {m : Message} {t : Turn φ σ}

/-- Datagrams are written in a turn when they are put out by the engine that runs, and only then. -/
theorem Turned.written (h : a.Turned k m t) :
    Bridge.written t.effects = [] ∧ (∀ endpoint datagram,
      m = .command (.emitted a.epoch (.datagram endpoint datagram)) → a.engine = none) ∨
    ∃ endpoint datagram live, m = .command (.emitted a.epoch (.datagram endpoint datagram)) ∧
      a.engine = some live ∧ t.actor.engine = some live ∧ t.broken = false ∧
      sessionsOf t.effects = (a.sending endpoint datagram).2.2 := by
  have haside : Bridge.written t.effects = Bridge.written (a.aside m) :=
    congrArg writes (h.filterMap_eq blind_session (fun _ => rfl) fun _ => rfl)
  have hcancels : Bridge.written a.cancels = [] := by
    rw [Bridge.written, cancels, sessionsOf_sessions]
    simp [writes, Table.effects_cancelAll, Session.Effect.written?]
  cases h with
  | ignored hignored =>
    refine .inl ⟨rfl, ?_⟩
    rintro endpoint datagram rfl
    simpa [Ignores, current?] using hignored
  | told hanswer =>
    rcases answer?_cases hanswer with ⟨rfl, rfl⟩ | ⟨rfl, rfl⟩ <;>
      exact .inl ⟨rfl, fun _ _ heq => by cases heq⟩
  | stopped hc =>
    rcases hc with rfl | rfl <;>
      exact .inl ⟨haside.trans hcancels, fun _ _ heq => by cases heq⟩
  | started => exact .inl ⟨haside.trans hcancels, fun _ _ heq => by cases heq⟩
  | fed | ticked => exact .inl ⟨haside, fun _ _ heq => by cases heq⟩
  | wrote | counted => exact .inl ⟨rfl, fun _ _ heq => by cases heq⟩
  | @sent live hengine endpoint datagram =>
    exact .inr ⟨endpoint, datagram, live, rfl, hengine, hengine, rfl, sessionsOf_sessions _⟩
  | @heard live hengine n =>
    refine .inl ⟨?_, fun _ _ heq => by cases heq⟩
    rw [haside, ← a.table.writes_notify n]
    simp [Bridge.written, aside, isLive, hengine, heeding]

end Actor

end Bridge

end PacketTunnel
