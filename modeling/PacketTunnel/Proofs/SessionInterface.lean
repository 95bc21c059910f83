import PacketTunnel.Proofs.LatestStart
import PacketTunnel.Proofs.SessionIndex
import PacketTunnel.Scripted.Engine

/-!
# The interface of sessions

A handle is set up only while an engine runs, and it must use the interface that the configuration
of that engine demands, whatever was demanded by starts before or by starts that failed. A
configuration that is bound to routes one after the other demands the interface of the last one
that does not lead into a tunnel, so sessions stay off the tunnel.
-/

namespace PacketTunnel

namespace Session

variable {κ : Type}

/-- The interface that the handle must use which an effect sets up, if it sets one up. -/
def Effect.interface? : Effect κ → Option (Option String)
  | .create _ _ _ interface => some interface
  | .upgrade _ _ _ interface => some interface
  | .write _ _ _ | .cancel _ => none

namespace Table

/-- What is sent leaves the demand for an interface alone, and a new handle is bound by it. -/
theorem interface_send (t : Table) (endpoint : Net.Endpoint) (datagram : Packet) (completion : κ) :
    (t.send endpoint datagram completion).1.requiredInterface = t.requiredInterface ∧
      ∀ interface ∈ (t.send endpoint datagram completion).2.2.filterMap Effect.interface?,
        interface = t.requiredInterface := by
  rw [send, serve]
  rcases t.sessionFor? endpoint with _ | id
  · refine ⟨rfl, fun interface h => ?_⟩
    dsimp only [create] at h
    split at h <;> simpa [Effect.interface?] using h
  · refine ⟨rfl, fun interface h => ?_⟩
    dsimp only at h
    split at h <;> simp [Effect.interface?] at h

/-- So does what handles report. -/
theorem interface_notify (t : Table) (n : Notification) :
    (t.notify (κ := κ) n).1.requiredInterface = t.requiredInterface ∧
      ∀ interface ∈ (t.notify (κ := κ) n).2.2.filterMap Effect.interface?,
        interface = t.requiredInterface := by
  have happly (e : Entry) : (t.apply (κ := κ) e n.event).1.requiredInterface = t.requiredInterface ∧
      ∀ interface ∈ (t.apply (κ := κ) e n.event).2.2.filterMap Effect.interface?,
        interface = t.requiredInterface := by
    rcases n.event with (_ | _ | _ | _) | _ | viable | datagrams | reason
    all_goals simp [apply, migrate, update, remove, Effect.interface?]
  rw [notify]
  split
  · simp
  · split
    · exact happly _
    · simp

end Table

end Session

namespace Config

/-- Demand the interfaces that routes go through, one after the other. -/
def bindAll (c : Config) (routes : List Route.Resolution) : Config :=
  routes.foldl (fun c route => (c.bindOutsideTunnel route).2) c

/-- Whether a route has an interface that does not belong to a tunnel. -/
def Outside (route : Route.Resolution) : Prop :=
  route.interfaceName ≠ "" ∧ ¬['u', 't', 'u', 'n'] <+: route.interfaceName.toList

instance (route : Route.Resolution) : Decidable (Outside route) :=
  inferInstanceAs (Decidable (_ ∧ _))

theorem requiredInterface_bindOutsideTunnel (c : Config) (route : Route.Resolution) :
    (c.bindOutsideTunnel route).2.requiredInterface =
      if Outside route then some route.interfaceName else c.requiredInterface := by
  have htunnel : route.isTunnel = true ↔ ['u', 't', 'u', 'n'] <+: route.interfaceName.toList := by
    simp [Route.Resolution.isTunnel, Route.isTunnelName, Route.tunnelName]
  rw [bindOutsideTunnel]
  by_cases hname : route.interfaceName = "" <;>
    by_cases hinto : ['u', 't', 'u', 'n'] <+: route.interfaceName.toList <;>
    simp [Outside, htunnel, hname, hinto]

/-- What is demanded in the end is the interface of the last route that does not lead into a
tunnel; without such a route the demand is left as it was. -/
theorem requiredInterface_bindAll (c : Config) (routes : List Route.Resolution) :
    (c.bindAll routes).requiredInterface =
      (((routes.filter Outside).getLast?.map (·.interfaceName)) <|> c.requiredInterface) := by
  induction routes generalizing c with
  | nil => rfl
  | cons route rest ih =>
    have hcons : c.bindAll (route :: rest) = (c.bindOutsideTunnel route).2.bindAll rest := rfl
    rw [hcons, ih, requiredInterface_bindOutsideTunnel]
    by_cases houtside : Outside route
    · rcases hlast : (rest.filter Outside).getLast? with _ | last
      · simp [houtside, hlast, List.getLast?_cons]
      · simp [houtside, hlast, List.getLast?_cons]
    · simp [houtside]

end Config

namespace Bridge

open Session

variable {φ σ : Type}

/-- The interface that the handle must use which an effect sets up, if it sets one up. -/
def Effect.interface? : Effect → Option (Option String)
  | .session effect => effect.interface?
  | _ => none

theorem blind_interface : Blind Effect.interface? := ⟨fun _ _ => rfl, fun _ => rfl⟩

theorem filterMap_interface_sessions (effects : List (Session.Effect WriteTag)) :
    (effects.map Effect.session).filterMap Effect.interface? =
      effects.filterMap Session.Effect.interface? := by
  rw [List.filterMap_map]
  rfl

namespace Actor

variable {k : Kind φ σ} {a : Actor φ σ} {m : Message} {t : Turn φ σ}

theorem interface_cancels (a : Actor φ σ) : a.cancels.filterMap Effect.interface? = [] := by
  simp [cancels, Table.effects_cancelAll, Effect.interface?, Session.Effect.interface?]

/-- Handles are set up in a turn only while an engine runs, with the interface that is demanded. -/
theorem Turned.interface (h : a.Turned k m t) :
    ∀ interface ∈ t.effects.filterMap Effect.interface?,
      a.engine ≠ none ∧ interface = a.table.requiredInterface := by
  intro interface hmem
  rw [h.filterMap_eq blind_interface (fun _ => rfl) fun _ => rfl] at hmem
  rcases m with c | n | -
  · cases c with
    | emitted epoch emission =>
      rcases hcurrent : a.current? epoch with _ | live
      · cases emission <;> simp [aside, hcurrent] at hmem
      · have hengine := (engine_of_current? hcurrent).2
        cases emission with
        | packet => simp [aside, hcurrent, Effect.interface?] at hmem
        | datagram endpoint datagram =>
          simp only [aside, hcurrent, Option.isSome_some, if_true,
            filterMap_interface_sessions] at hmem
          exact ⟨by simp [hengine], (a.table.interface_send endpoint datagram _).2 interface hmem⟩
    | start | stop | shutdown => simp [aside, interface_cancels] at hmem
    | traffic | sessions | hostPackets | written => simp [aside, Effect.interface?] at hmem
  · rcases hengine : a.engine with _ | live
    · simp [aside, isLive, hengine] at hmem
    · simp only [aside, isLive, hengine, Option.isSome_some, if_true, heeding,
        filterMap_interface_sessions] at hmem
      exact ⟨Option.some_ne_none live, (a.table.interface_notify n).2 interface hmem⟩
  · simp [aside] at hmem

theorem table_talked (a : Actor φ σ) (live : Live σ) (t : Talk × Option σ) :
    (a.talked live t).actor.table = a.table := by
  obtain ⟨said, state | -⟩ := t <;> rfl

/-- Only a start changes the interface that is demanded. -/
theorem Turned.requiredInterface (h : a.Turned k m t)
    (hm : ∀ config, m ≠ .command (.start config)) :
    t.actor.table.requiredInterface = a.table.requiredInterface := by
  cases h with
  | started config => exact absurd rfl (hm config)
  | ignored | told | wrote | counted => rfl
  | stopped =>
    have hcleared : a.cleared.table.requiredInterface = a.table.requiredInterface :=
      (a.table.frame_cancelAll (κ := WriteTag)).1
    rcases hengine : a.engine with _ | live
    · rw [stop_idle k hengine]
      exact hcleared
    · obtain ⟨output, -, ⟨-, hactor⟩ | ⟨-, hactor⟩⟩ := stop_live k hengine <;> rw [hactor] <;>
        exact hcleared
  | @fed live hengine packets =>
    rw [Turn.andThen]
    split
    · rw [table_talked]
    · rw [Turn.done, table_talked]
  | sent hengine endpoint datagram =>
    exact (a.table.interface_send endpoint datagram (⟨a.epoch, datagram.length⟩ : WriteTag)).1
  | @heard live hengine n =>
    have htalked := table_talked (a.hearing k live n) live
      (k.talk ((a.brought n).map .tunnel) live.state)
    simp only [Turn.andThen, Turn.done, Bool.false_eq_true, if_false, htalked]
    exact (a.table.interface_notify (κ := WriteTag) n).1
  | ticked => rw [table_talked]

end Actor

namespace Loop

variable {k : Kind φ σ} {workshop : φ} {period : Nat} {record : List (Worked φ σ)} {l : Loop φ σ}

/-- What is demanded is what the configuration of the latest start demands. -/
theorem Run.demanded (h : Run k (fresh workshop period) record (some l)) {live : Live σ}
    (hlive : l.actor.engine = some live) : ∃ config,
      lastStart record = some (live.number, config) ∧
        l.actor.table.requiredInterface = config.requiredInterface :=
  h.latest (P := fun config a => a.table.requiredInterface = config.requiredInterface)
    (fun hsucceeds => hsucceeds.interface)
    (fun hbefore hm => ((Actor.turned_turn k _ _).requiredInterface hm).trans hbefore) hlive

/-- The interfaces that handles are bound to in a run. -/
structure Bound (record : List (Worked φ σ)) : Prop where
  /-- A handle is set up only while an engine runs, the one of the latest start that succeeded, and
  it must use the interface that the configuration of this start demands. -/
  current : ∀ before w after, record = before ++ w :: after →
    ∀ interface ∈ w.effects.filterMap Effect.interface?, ∃ live config,
      w.before.actor.engine = some live ∧ lastStart before = some (live.number, config) ∧
        interface = config.requiredInterface
  /-- If that configuration demanded none at first and was then bound to routes, the interface is
  that of the last route with a name that does not belong to a tunnel. So it never is one without a
  name or of a tunnel. -/
  outside : ∀ before w after, record = before ++ w :: after → ∀ number (c : Config) routes,
    c.requiredInterface = none → lastStart before = some (number, c.bindAll routes) →
      ∀ interface ∈ w.effects.filterMap Effect.interface?,
        interface = (routes.filter Config.Outside).getLast?.map (·.interfaceName) ∧
          ∀ name, interface = some name → name ≠ "" ∧ ¬['u', 't', 'u', 'n'] <+: name.toList

/-- A handle that is set up in a run is bound to the interface that the configuration of the latest
start demands. -/
theorem Run.current {before after : List (Worked φ σ)} {w : Worked φ σ} {last : Option (Loop φ σ)}
    (h : Run k (fresh workshop period) (before ++ w :: after) last) {interface : Option String}
    (hmem : interface ∈ w.effects.filterMap Effect.interface?) : ∃ live config,
      w.before.actor.engine = some live ∧ lastStart before = some (live.number, config) ∧
        interface = config.requiredInterface := by
  obtain ⟨hbefore, -, now, hw⟩ := h.at_message
  rw [hw, filterMap_worked (fun _ => rfl)] at hmem
  obtain ⟨hruns, hdemanded⟩ := (Actor.turned_turn k w.before w.message).interface interface hmem
  obtain ⟨live, hlive⟩ := Option.ne_none_iff_exists'.mp hruns
  obtain ⟨config, hlatest, hinterface⟩ := hbefore.demanded hlive
  exact ⟨live, config, hlive, hlatest, hdemanded.trans hinterface⟩

/-- Whatever a bridge is told and whatever its engines do, handles are bound to the interface that
the configuration of the engine demands. And a configuration that demanded none and was bound to
routes demands the interface of the last of them that does not lead into a tunnel. -/
theorem bound_run (k : Kind φ σ) (workshop : φ) (period : Nat) (messages : List (Nat × Message)) :
    Bound ((fresh workshop period).run k messages).1 ∧
      ∀ (c : Config) (routes : List Route.Resolution), c.requiredInterface = none →
        (c.bindAll routes).requiredInterface =
          (routes.filter Config.Outside).getLast?.map (·.interfaceName) := by
  have hrun := run_fresh k (fresh workshop period) messages
  have hbind (c : Config) (routes : List Route.Resolution) (hnone : c.requiredInterface = none) :
      (c.bindAll routes).requiredInterface =
        (routes.filter Config.Outside).getLast?.map (·.interfaceName) := by
    simp [c.requiredInterface_bindAll, hnone]
  refine ⟨⟨?_, ?_⟩, hbind⟩
  · intro before w after hrecord interface hmem
    rw [hrecord] at hrun
    exact hrun.current hmem
  · intro before w after hrecord number c routes hnone hstart interface hmem
    rw [hrecord] at hrun
    obtain ⟨live, config, -, hlatest, rfl⟩ := hrun.current hmem
    obtain ⟨-, rfl⟩ := Prod.mk.inj (Option.some.inj (hstart.symm.trans hlatest))
    refine ⟨hbind c routes hnone, fun name hname => ?_⟩
    rw [hbind c routes hnone, Option.map_eq_some_iff] at hname
    obtain ⟨route, hroute, rfl⟩ := hname
    have houtside := (List.mem_filter.mp (List.mem_of_getLast? hroute)).2
    exact of_decide_eq_true houtside

/-- A route through an interface. -/
def through (interfaceName : String) : Route.Resolution :=
  ⟨.v4 ⟨10, 0, 0, 1⟩, none, none, interfaceName, 0⟩

/-- A session is created for the first engine. Then a start fails, and another engine is started
with a configuration that was bound to routes, one of them into a tunnel; its session moves to a
better path. -/
def rebinding : List (Nat × Message) :=
  [(0, .command (.start (complete.bindAll [through "en0"]))),
    (1, .command (.emitted 1 (.datagram (.v4 ⟨10, 0, 0, 1⟩ 51820) [7]))),
    (2, .command (.start { complete with
      peer := { complete.peer with endpoint := none }, requiredInterface := some "lo0" })),
    (3, .command (.start (complete.bindAll [through "en1", through "utun4", through ""]))),
    (4, .command (.emitted 3 (.datagram (.v4 ⟨10, 0, 0, 1⟩ 51820) [8]))),
    (5, .notification ⟨2, 2, .betterPath⟩)]

/-- Engines that put out nothing. -/
def mute : Scripted.Script := ⟨[], [], [], [], [], []⟩

theorem bound_rebinding :
    (effectsOf ((fresh 0 1).run mute.kind rebinding).1).filterMap Effect.interface? =
      [some "en0", some "en1", some "en1"] ∧
    Bound ((fresh 0 1).run mute.kind rebinding).1 ∧
    (complete.bindAll [through "en1", through "utun4", through ""]).requiredInterface =
      some "en1" := by
  obtain ⟨hbound, hbind⟩ := bound_run mute.kind 0 1 rebinding
  refine ⟨by decide, hbound, ?_⟩
  rw [hbind complete _ rfl]
  decide

end Loop

end Bridge

end PacketTunnel
