import PacketTunnel.Bridge.Actor

/-!
# What a bridge does in a turn

A turn is a series of moves: an engine is shut down, set up or called, sessions are cancelled,
served or changed, and something is told or counted. The moves are listed once, each with the state
of the bridge in which it comes about, so that what all of them keep is kept by every turn.
-/

namespace PacketTunnel.Bridge

open Session

variable {φ σ : Type}

/-- Whether a call hands something to an engine that runs. -/
def EngineCall.Use : EngineCall → Prop
  | .host _ | .tunnel _ | .tick => True
  | .init _ _ | .shutdown | .drop => False

/-- Effects that touch neither engines nor sessions and answer no start. -/
def Effect.Plain : Effect → Prop
  | .readHost _ | .writeHost _ _ | .traffic _ | .sessions _ => True
  | .engine _ _ | .post _ | .session _ | .started _ => False

/-- What is done to shut an engine down. -/
def Live.shutDown (live : Live σ) (output : List Emission) : List Effect :=
  .engine live.number .shutdown :: Actor.posts live.epoch output ++ [.engine live.number .drop]

namespace Actor

/-- What is done to cancel every session. -/
def cancels (a : Actor φ σ) : List Effect := (a.table.cancelAll (κ := WriteTag)).2.map .session

/-- A bridge whose sessions were cancelled. -/
def cleared (a : Actor φ σ) : Actor φ σ :=
  { a with table := (a.table.cancelAll (κ := WriteTag)).1 }

/-- What an attempt to set up an engine does, apart from how it ends. -/
def attempted (a : Actor φ σ) (params : EngineParams) (output : List Emission) : List Effect :=
  .engine a.attempts (.init (a.epoch + 1) params) :: posts (a.epoch + 1) output

/-- A bridge that has tried to set up an engine. -/
def opened (a : Actor φ σ) (workshop : φ) : Actor φ σ :=
  { a with workshop, epoch := a.epoch + 1, attempts := a.attempts + 1 }

/-- What a bridge does: the effects, whether an engine broke, and the bridge afterwards. -/
inductive Move (k : Kind φ σ) (a : Actor φ σ) : List Effect → Bool → Actor φ σ → Prop where
  /-- Something is told or counted. -/
  | plain (effects : List Effect) (traffic : Traffic) (hplain : ∀ x ∈ effects, x.Plain) :
    Move k a effects false { a with traffic }
  /-- Sessions are cancelled; there is no engine to shut down. -/
  | cleared (hengine : a.engine = none) : Move k a a.cancels false a.cleared
  /-- Sessions are cancelled, and the engine is shut down. -/
  | closed (live : Live σ) (output : List Emission) (hengine : a.engine = some live) :
    Move k a (a.cancels ++ live.shutDown output) false
      { a.cleared with engine := none, epoch := a.epoch + 1 }
  /-- Sessions are cancelled, and the engine breaks when it is shut down. -/
  | closeBroken (live : Live σ) (output : List Emission) (hengine : a.engine = some live) :
    Move k a (a.cancels ++ live.shutDown output) true { a.cleared with engine := none }
  /-- A configuration starts no engine. -/
  | unfit (cause : ConfigError) (hengine : a.engine = none) :
    Move k a [.started (.error (.config cause))] false a
  /-- An engine is set up. -/
  | started (workshop : φ) (params : EngineParams) (output : List Emission) (state : σ)
      (interface : Option String) (hengine : a.engine = none)
      (hinit : k.init a.workshop params = (workshop, output, .running state)) :
    Move k a (a.attempted params output ++ [.readHost (a.epoch + 1), .started (.ok ())]) false
      { a.opened workshop with
        engine := some ⟨a.attempts, a.epoch + 1, state⟩
        traffic := .none
        table := a.table.withInterface interface }
  /-- An engine is refused. -/
  | refused (workshop : φ) (params : EngineParams) (output : List Emission)
      (hengine : a.engine = none)
      (hinit : k.init a.workshop params = (workshop, output, .refused)) :
    Move k a (a.attempted params output ++ [.started (.error .engine)]) false (a.opened workshop)
  /-- The attempt to set up an engine breaks off. -/
  | initBroken (workshop : φ) (params : EngineParams) (output : List Emission)
      (hengine : a.engine = none)
      (hinit : k.init a.workshop params = (workshop, output, .broken)) :
    Move k a (a.attempted params output) true (a.opened workshop)
  /-- The engine is called. -/
  | called (live : Live σ) (call : EngineCall) (output : List Emission) (state : σ)
      (hengine : a.engine = some live) (huse : call.Use) :
    Move k a (.engine live.number call :: posts live.epoch output) false
      { a with engine := some { live with state } }
  /-- The engine breaks when it is called. -/
  | callBroken (live : Live σ) (call : EngineCall) (output : List Emission)
      (hengine : a.engine = some live) (huse : call.Use) :
    Move k a
      (.engine live.number call :: posts live.epoch output ++ [.engine live.number .drop]) true
      { a with engine := none }
  /-- A datagram is sent. -/
  | sent (live : Live σ) (endpoint : Net.Endpoint) (datagram : Packet) (tag : WriteTag)
      (hengine : a.engine = some live) :
    Move k a ((a.table.send endpoint datagram tag).2.2.map .session) false
      { a with table := (a.table.send endpoint datagram tag).1 }
  /-- A report of a session handle is taken up. -/
  | notified (live : Live σ) (n : Notification) (hengine : a.engine = some live) :
    Move k a ((a.table.notify n).2.2.map .session) false
      { a with table := (a.table.notify (κ := WriteTag) n).1 }

/-- One move after the other, until an engine breaks. -/
inductive Moves (k : Kind φ σ) : Actor φ σ → List Effect → Bool → Actor φ σ → Prop where
  /-- Nothing is left to do. -/
  | nil (a : Actor φ σ) : Moves k a [] false a
  /-- A move, and what comes after it. -/
  | cons {a b c : Actor φ σ} {effects more : List Effect} {broken : Bool}
      (first : Move k a effects false b) (rest : Moves k b more broken c) :
    Moves k a (effects ++ more) broken c
  /-- An engine breaks. -/
  | broken {a b : Actor φ σ} {effects : List Effect} (last : Move k a effects true b) :
    Moves k a effects true b

/-- Whether a turn is a series of moves. -/
def Moved (k : Kind φ σ) (a : Actor φ σ) (t : Turn φ σ) : Prop :=
  Moves k a t.effects t.broken t.actor

variable {k : Kind φ σ}

theorem Move.moves {a b : Actor φ σ} {effects : List Effect} {broken : Bool}
    (h : Move k a effects broken b) : Moves k a effects broken b := by
  cases broken with
  | false =>
    have hmoves := Moves.cons h (.nil b)
    rwa [List.append_nil] at hmoves
  | true => exact .broken h

/-- An engine that breaks does not run any longer. -/
theorem Move.engine_eq_none {a b : Actor φ σ} {effects : List Effect}
    (h : Move k a effects true b) : b.engine = none := by
  cases h with
  | closeBroken | callBroken => rfl
  | initBroken _ _ _ hengine => exact hengine

theorem Moves.append {a b c : Actor φ σ} {effects more : List Effect} {broken : Bool}
    (h : Moves k a effects false b) (hmore : Moves k b more broken c) :
    Moves k a (effects ++ more) broken c := by
  generalize hgo : false = go at h
  induction h with
  | nil a => exact hmore
  | cons first rest ih =>
    rw [List.append_assoc]
    exact .cons first (ih hmore hgo)
  | broken last => exact absurd hgo Bool.false_ne_true

/-- Turns that are series of moves go on to be one. -/
theorem Moved.andThen {a : Actor φ σ} {t : Turn φ σ} (h : Moved k a t)
    {next : Actor φ σ → Turn φ σ} (hnext : t.broken = false → Moved k t.actor (next t.actor)) :
    Moved k a (t.andThen next) := by
  rw [Turn.andThen]
  rcases hbroken : t.broken with _ | _
  · rw [Moved, hbroken] at h
    exact h.append (hnext hbroken)
  · exact h

theorem moved_done (a : Actor φ σ) : Moved k a (.done a []) := .nil a

/-- Something is told, and nothing else happens. -/
theorem moved_told (a : Actor φ σ) {effect : Effect} (h : effect.Plain) :
    Moved k a (.done a [effect]) :=
  (Move.plain [effect] a.traffic (List.forall_mem_singleton.mpr h)).moves

/-- A call on an engine is a move. -/
theorem moved_callEngine (a : Actor φ σ) {call : EngineCall} (huse : call.Use)
    (react : σ → Reaction σ) : Moved k a (a.callEngine call react) := by
  rw [callEngine]
  rcases hengine : a.engine with _ | live
  · exact moved_done a
  · rcases hnext : (react live.state).next with _ | state
    · simp only [hnext]
      exact (Move.callBroken live call _ hengine huse).moves
    · simp only [hnext]
      exact (Move.called live call _ state hengine huse).moves

theorem stop_eq (k : Kind φ σ) (a : Actor φ σ) : a.stop k =
    { a.cleared.shutdownEngine k with
      effects := a.cancels ++ (a.cleared.shutdownEngine k).effects } := rfl

theorem stop_idle (k : Kind φ σ) {a : Actor φ σ} (h : a.engine = none) :
    a.stop k = .done a.cleared a.cancels := by
  have hidle : a.cleared.shutdownEngine k = .done a.cleared [] := by
    rw [shutdownEngine, show a.cleared.engine = none from h]
  rw [stop_eq, hidle]
  simp only [Turn.done, List.append_nil]

/-- To stop an engine, sessions are cancelled and the engine is shut down; it may break then. -/
theorem stop_live (k : Kind φ σ) {a : Actor φ σ} {live : Live σ} (h : a.engine = some live) :
    ∃ output, (a.stop k).effects = a.cancels ++ live.shutDown output ∧
      ((a.stop k).broken = false ∧
          (a.stop k).actor = { a.cleared with engine := none, epoch := a.epoch + 1 } ∨
        (a.stop k).broken = true ∧ (a.stop k).actor = { a.cleared with engine := none }) := by
  have hlive : a.cleared.engine = some live := h
  refine ⟨(k.shutdown live.state).output, ?_⟩
  rcases hnext : (k.shutdown live.state).next with _ | state
  · have hshut : a.cleared.shutdownEngine k = ⟨{ a.cleared with engine := none },
        live.shutDown (k.shutdown live.state).output, true⟩ := by
      rw [shutdownEngine]
      simp only [hlive, hnext]
      rfl
    rw [stop_eq, hshut]
    exact ⟨rfl, .inr ⟨rfl, rfl⟩⟩
  · have hshut : a.cleared.shutdownEngine k =
        .done { a.cleared with engine := none, epoch := a.cleared.epoch + 1 }
          (live.shutDown (k.shutdown live.state).output) := by
      rw [shutdownEngine]
      simp only [hlive, hnext]
      rfl
    rw [stop_eq, hshut]
    exact ⟨rfl, .inl ⟨rfl, rfl⟩⟩

/-- To stop is a move. -/
theorem moved_stop (k : Kind φ σ) (a : Actor φ σ) : Moved k a (a.stop k) := by
  rcases hengine : a.engine with _ | live
  · rw [stop_idle k hengine]
    exact (Move.cleared hengine).moves
  · obtain ⟨output, heffects, ⟨hbroken, hactor⟩ | ⟨hbroken, hactor⟩⟩ := stop_live k hengine
    · rw [Moved, heffects, hbroken, hactor]
      exact (Move.closed live output hengine).moves
    · rw [Moved, heffects, hbroken, hactor]
      exact (Move.closeBroken live output hengine).moves

/-- No engine runs after a stop. -/
theorem engine_stop (k : Kind φ σ) (a : Actor φ σ) : (a.stop k).actor.engine = none := by
  rcases hengine : a.engine with _ | live
  · rw [stop_idle k hengine]
    exact hengine
  · obtain ⟨output, -, ⟨-, hactor⟩ | ⟨-, hactor⟩⟩ := stop_live k hengine <;> rw [hactor]

/-- To set up an engine where none runs is a move. -/
theorem moved_setUp (k : Kind φ σ) (config : Config) {a : Actor φ σ} (h : a.engine = none) :
    Moved k a (a.setUp k config) := by
  rw [setUp]
  rcases config.engineParams with cause | params
  · exact (Move.unfit cause h).moves
  · rcases hinit : k.init a.workshop params with ⟨workshop, output, state | - | -⟩
    · simp only [hinit]
      exact (Move.started workshop params output state config.requiredInterface h hinit).moves
    · simp only [hinit]
      exact (Move.refused workshop params output h hinit).moves
    · simp only [hinit]
      exact (Move.initBroken workshop params output h hinit).moves

theorem moved_start (k : Kind φ σ) (config : Config) (a : Actor φ σ) :
    Moved k a (a.start k config) :=
  (moved_stop k a).andThen fun _ => moved_setUp k config (engine_stop k a)

theorem moved_handHost (k : Kind φ σ) (packets : List Packet) (a : Actor φ σ) :
    Moved k a (handHost k packets a) := by
  induction packets generalizing a with
  | nil => exact moved_done a
  | cons packet rest ih =>
    have huse : (EngineCall.host packet).Use := trivial
    exact (moved_callEngine a huse _).andThen fun _ => ih _

theorem moved_handTunnel (k : Kind φ σ) (datagrams : List Packet) (a : Actor φ σ) :
    Moved k a (handTunnel k datagrams a) := by
  induction datagrams generalizing a with
  | nil => exact moved_done a
  | cons datagram rest ih =>
    have hcounted : Move k a [] false { a with traffic := a.traffic.received datagram.length } :=
      .plain [] _ fun _ h => absurd h List.not_mem_nil
    have huse : (EngineCall.tunnel datagram).Use := trivial
    have hcalled : Moved k a (callEngine { a with traffic := a.traffic.received datagram.length }
        (.tunnel datagram) (k.tunnel · datagram)) :=
      hcounted.moves.append (moved_callEngine _ huse _)
    exact hcalled.andThen fun _ => ih _

/-- A current epoch is that of an engine that runs. -/
theorem engine_of_current? {a : Actor φ σ} {epoch : Nat} {live : Live σ}
    (h : a.current? epoch = some live) : epoch = a.epoch ∧ a.engine = some live := by
  rw [current?] at h
  split at h
  · next heq => exact ⟨heq, h⟩
  · exact absurd h.symm (Option.some_ne_none _)

/-- To work on a message is a series of moves. -/
theorem moved_command (k : Kind φ σ) (a : Actor φ σ) (c : Command) : Moved k a (a.command k c) := by
  cases c with
  | start config => exact moved_start k config a
  | stop => exact moved_stop k a
  | shutdown => exact moved_stop k a
  | traffic =>
    have hplain : (Effect.traffic a.traffic).Plain := trivial
    exact moved_told a hplain
  | sessions =>
    have hplain : (Effect.sessions a.table.entries).Plain := trivial
    exact moved_told a hplain
  | hostPackets epoch packets =>
    rw [command, hostPackets]
    rcases a.current? epoch with _ | live
    · exact moved_done a
    · have hplain : (Effect.readHost epoch).Plain := trivial
      exact (moved_handHost k packets a).andThen fun _ => moved_told _ hplain
  | emitted epoch emission =>
    rcases hcurrent : a.current? epoch with _ | live
    · simp only [command, emitted, hcurrent]
      exact moved_done a
    · obtain ⟨-, hengine⟩ := engine_of_current? hcurrent
      cases emission with
      | packet family packet =>
        have hplain : (Effect.writeHost packet family).Plain := trivial
        simp only [command, emitted, hcurrent]
        exact moved_told a hplain
      | datagram endpoint datagram =>
        simp only [command, emitted, hcurrent]
        exact (Move.sent live endpoint datagram ⟨epoch, datagram.length⟩ hengine).moves
  | written tag result =>
    rcases hcurrent : a.current? tag.epoch with _ | live
    · simp only [command, written, hcurrent]
      exact moved_done a
    · rcases result with reason | ⟨⟩
      · simp only [command, written, hcurrent]
        exact moved_done a
      · simp only [command, written, hcurrent]
        exact (Move.plain [] (a.traffic.sent tag.length)
          fun _ h => absurd h List.not_mem_nil).moves

theorem moved_notification (k : Kind φ σ) (a : Actor φ σ) (n : Notification) :
    Moved k a (a.notification k n) := by
  rcases hengine : a.engine with _ | live
  · have hidle : a.isLive = false := by rw [isLive, hengine, Option.isSome_none]
    rw [notification, hidle]
    exact moved_done a
  · have hlive : a.isLive = true := by rw [isLive, hengine, Option.isSome_some]
    have hnotified : Moved k a (.done { a with table := (a.table.notify (κ := WriteTag) n).1 }
        ((a.table.notify n).2.2.map .session)) := (Move.notified live n hengine).moves
    rw [notification, hlive]
    exact hnotified.andThen fun _ => moved_handTunnel k _ _

theorem moved_tick (k : Kind φ σ) (a : Actor φ σ) : Moved k a (a.tick k) := by
  have huse : EngineCall.tick.Use := trivial
  exact moved_callEngine a huse k.tick

end Actor

end PacketTunnel.Bridge
