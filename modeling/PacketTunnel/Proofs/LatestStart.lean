import PacketTunnel.Proofs.EngineConversation

/-!
# The latest start

A start is answered with success just if it leaves an engine running, under the number of the
attempt that was made for it. So the engine that runs is the one of the latest start that
succeeded, and it runs with the configuration of that start; a start that fails leaves none running,
and is not the latest one.
-/

namespace PacketTunnel.Bridge

open Session

variable {φ σ : Type}

/-- That a start is answered with success. -/
def Effect.success? : Effect → Option Unit
  | .started (.ok ()) => some ()
  | _ => none

/-- The epoch in which packets are asked for. -/
def Effect.armed? : Effect → Option Nat
  | .readHost epoch => some epoch
  | _ => none

/-- The number of the engine that a message started, with its configuration. -/
def Worked.started? (w : Worked φ σ) : Option (Nat × Config) :=
  match w.message with
  | .command (.start config) =>
    if w.effects.filterMap Effect.success? = [] then none
    else (openings w.effects).head?.map fun p => (p.1, config)
  | _ => none

/-- The number of the engine of the latest start that succeeded, with its configuration. -/
def lastStart (record : List (Worked φ σ)) : Option (Nat × Config) :=
  (record.filterMap Worked.started?).getLast?

theorem lastStart_snoc (record : List (Worked φ σ)) (w : Worked φ σ) :
    lastStart (record ++ [w]) = (w.started? <|> lastStart record) := by
  rcases hstarted : w.started? with _ | start <;> simp [lastStart, hstarted]

theorem started?_start {w : Worked φ σ} {config : Config}
    (h : w.message = .command (.start config)) : w.started? =
      if w.effects.filterMap Effect.success? = [] then none
      else (openings w.effects).head?.map fun p => (p.1, config) := by
  simp only [Worked.started?, h]

theorem blind_success : Blind Effect.success? := ⟨fun _ _ => rfl, fun _ => rfl⟩

theorem blind_armed : Blind Effect.armed? := ⟨fun _ _ => rfl, fun _ => rfl⟩

namespace Actor

/-- What a start comes to that succeeds. -/
structure Succeeds (config : Config) (a : Actor φ σ) (t : Turn φ σ) (live : Live σ) : Prop where
  /-- It is answered with success, -/
  success : t.effects.filterMap Effect.success? = [()]
  /-- made one attempt, -/
  opened : openings t.effects = [(live.number, live.epoch)]
  /-- and left the engine of the attempt running, -/
  engine : t.actor.engine = some live
  /-- in an epoch of its own, -/
  epoch_lt : a.epoch < live.epoch
  /-- in which packets are asked for. -/
  armed : t.effects.filterMap Effect.armed? = [live.epoch]
  /-- The counters are back to zero, -/
  traffic : t.actor.traffic = .none
  /-- and sessions must use the interface that the configuration demands. -/
  interface : t.actor.table.requiredInterface = config.requiredInterface

/-- What a start comes to that fails. -/
structure Fails (a : Actor φ σ) (t : Turn φ σ) : Prop where
  /-- It is not answered with success, -/
  success : t.effects.filterMap Effect.success? = []
  /-- no engine runs, -/
  engine : t.actor.engine = none
  /-- no packets are asked for, -/
  armed : t.effects.filterMap Effect.armed? = []
  /-- and the counters are left alone. -/
  traffic : t.actor.traffic = a.traffic

variable {k : Kind φ σ} {config : Config} {a : Actor φ σ} {t : Turn φ σ}

theorem traffic_stop (k : Kind φ σ) (a : Actor φ σ) : (a.stop k).actor.traffic = a.traffic := by
  rcases hengine : a.engine with _ | live
  · rw [stop_idle k hengine]
    rfl
  · obtain ⟨output, -, ⟨-, hactor⟩ | ⟨-, hactor⟩⟩ := stop_live k hengine <;> rw [hactor] <;> rfl

theorem openings_stop (k : Kind φ σ) (a : Actor φ σ) : openings (a.stop k).effects = [] := by
  rcases hengine : a.engine with _ | live
  · rw [stop_idle k hengine]
    exact openings_mute (mute_cancels a)
  · exact (speaks_stop k hengine).opened

/-- A stop answers no start and asks for no packets. -/
theorem seen_stop (k : Kind φ σ) (a : Actor φ σ) :
    (a.stop k).effects.filterMap Effect.success? = [] ∧
      (a.stop k).effects.filterMap Effect.armed? = [] := by
  rw [filterMap_stop blind_success, filterMap_stop blind_armed]
  simp [cancels, Effect.success?, Effect.armed?]

theorem openings_attempted (a : Actor φ σ) (params : EngineParams) (output : List Emission) :
    openings (a.attempted params output) = [(a.attempts, a.epoch + 1)] :=
  congrArg ((a.attempts, a.epoch + 1) :: ·) (openings_posts (a.epoch + 1) output)

/-- An attempt succeeds or fails. -/
theorem SetUp.outcome (h : SetUp k config a t) (hnone : a.engine = none) :
    (∃ live, a.Succeeds config t live) ∨ a.Fails t := by
  have hsuccess (params : EngineParams) (output : List Emission) :
      (a.attempted params output).filterMap Effect.success? = [] :=
    filterMap_attempted blind_success a params output
  have harmed (params : EngineParams) (output : List Emission) :
      (a.attempted params output).filterMap Effect.armed? = [] :=
    filterMap_attempted blind_armed a params output
  cases h with
  | unfit => exact .inr ⟨rfl, hnone, rfl, rfl⟩
  | broken => exact .inr ⟨hsuccess .., hnone, harmed .., rfl⟩
  | refused =>
    refine .inr ⟨?_, hnone, ?_, rfl⟩
    · simp [Turn.done, hsuccess, Effect.success?]
    · simp [Turn.done, harmed, Effect.armed?]
  | running =>
    refine .inl ⟨_, ?_, ?_, rfl, Nat.lt_succ_self _, ?_, rfl, rfl⟩
    · rw [Turn.done, List.filterMap_append, hsuccess]
      rfl
    · rw [Turn.done, openings_append, openings_attempted]
      rfl
    · rw [Turn.done, List.filterMap_append, harmed]
      rfl

/-- So does a start. -/
theorem start_outcome (k : Kind φ σ) (config : Config) (a : Actor φ σ) :
    (∃ live, a.Succeeds config (a.start k config) live) ∨ a.Fails (a.start k config) := by
  have hnone := engine_stop k a
  have hle := (stays_stop k a).epoch_le
  obtain ⟨hsuccess, harmed⟩ := seen_stop k a
  rcases start_cases k config a with ⟨-, hstart⟩ | ⟨-, t, hsetUp, hstart⟩
  · rw [hstart]
    exact .inr ⟨hsuccess, hnone, harmed, traffic_stop k a⟩
  · rw [hstart]
    rcases hsetUp.outcome hnone with ⟨live, h⟩ | h
    · refine .inl ⟨live, ?_, ?_, h.engine, Nat.lt_of_le_of_lt hle h.epoch_lt, ?_, h.traffic,
        h.interface⟩
      · simp [hsuccess, h.success]
      · simp [openings_append, openings_stop, h.opened]
      · simp [harmed, h.armed]
    · refine .inr ⟨?_, h.engine, ?_, h.traffic.trans (traffic_stop k a)⟩
      · simp [hsuccess, h.success]
      · simp [harmed, h.armed]

end Actor

namespace Loop

variable {k : Kind φ σ} {workshop : φ} {period : Nat} {record : List (Worked φ σ)} {l : Loop φ σ}

/-- A message starts an engine, or it leaves the latest start as it was; a start that does so leaves
no engine running and the counters alone. -/
theorem started_cases (k : Kind φ σ) (l : Loop φ σ) (now : Nat) (m : Message) :
    (∃ config live, m = .command (.start config) ∧
      (l.worked k now m).started? = some (live.number, config) ∧
      l.actor.Succeeds config (l.turn k m) live) ∨
    (l.worked k now m).started? = none ∧
      ∀ config, m = .command (.start config) → l.actor.Fails (l.turn k m) := by
  rcases m.start_or with ⟨config, rfl⟩ | hm
  · have hturn : l.turn k (.command (.start config)) = l.actor.start k config := rfl
    have hsuccess : (l.worked k now (.command (.start config))).effects.filterMap Effect.success? =
        (l.turn k (.command (.start config))).effects.filterMap Effect.success? :=
      filterMap_worked (fun _ => rfl) k l now _
    have hopened : openings (l.worked k now (.command (.start config))).effects =
        openings (l.turn k (.command (.start config))).effects :=
      filterMap_worked (fun _ => rfl) k l now _
    rw [hturn] at hsuccess hopened
    rcases l.actor.start_outcome k config with ⟨live, h⟩ | h
    · refine .inl ⟨config, live, rfl, ?_, h⟩
      rw [started?_start rfl, hsuccess, hopened, h.success, h.opened]
      rfl
    · refine .inr ⟨?_, fun _ _ => h⟩
      rw [started?_start rfl, hsuccess, h.success]
      rfl
  · refine .inr ⟨?_, fun config heq => absurd heq (hm config)⟩
    rcases m with c | n | -
    · cases c with
      | start config => exact absurd rfl (hm config)
      | stop | traffic | sessions | hostPackets | emitted | written | shutdown => rfl
    · rfl
    · rfl

/-- The engine that runs is the one of the latest start that succeeded, and what holds after every
such start and is kept by other turns holds with its configuration. -/
theorem Run.latest {P : Config → Actor φ σ → Prop}
    (hstart : ∀ {config : Config} {a : Actor φ σ} {t : Turn φ σ} {live : Live σ},
      a.Succeeds config t live → P config t.actor)
    (hturn : ∀ {config : Config} {l : Loop φ σ} {m : Message}, P config l.actor →
      (∀ config, m ≠ .command (.start config)) → P config (l.turn k m).actor)
    (h : Run k (fresh workshop period) record (some l)) {live : Live σ}
    (hlive : l.actor.engine = some live) :
    ∃ config, lastStart record = some (live.number, config) ∧ P config l.actor := by
  generalize hlast : some l = last at h
  induction h generalizing l live with
  | nil =>
    obtain rfl := Option.some.inj hlast
    simp [fresh, Actor.idle] at hlive
  | @snoc record found h now m ih =>
    have hactor := (actor_of_after hlast.symm).1
    rw [hactor] at hlive ⊢
    rw [lastStart_snoc]
    rcases started_cases k found now m with ⟨config, started, rfl, hstarted, hsucceeds⟩ |
      ⟨hstarted, hfails⟩
    · obtain rfl := Option.some.inj (hsucceeds.engine.symm.trans hlive)
      exact ⟨config, by simp [hstarted], hstart hsucceeds⟩
    · have hm : ∀ config, m ≠ .command (.start config) := fun config heq =>
        Option.some_ne_none _ (hlive.symm.trans (hfails config heq).engine)
      have hturned := Actor.turned_turn k found m
      rcases hengine : found.actor.engine with _ | previous
      · exact absurd (hlive.symm.trans (hturned.silent hengine hm).engine) (Option.some_ne_none _)
      · obtain ⟨state, -, rfl⟩ := (hturned.speaks hengine hm).engine live hlive
        obtain ⟨config, hlatest, hkept⟩ := ih hengine rfl
        exact ⟨config, by simp [hstarted, hlatest], hturn hkept hm⟩

/-- So its number is the one of that start. -/
theorem Run.number_eq (h : Run k (fresh workshop period) record (some l)) {n : Nat}
    {config : Config} (hlatest : lastStart record = some (n, config)) {live : Live σ}
    (hlive : l.actor.engine = some live) : live.number = n := by
  obtain ⟨found, hfound, -⟩ :=
    h.latest (P := fun _ _ => True) (fun _ => trivial) (fun _ _ => trivial) hlive
  exact (Prod.mk.inj (Option.some.inj (hfound.symm.trans hlatest))).1

end Loop

end PacketTunnel.Bridge
