import Mathlib.Data.List.Nodup
import PacketTunnel.Proofs.EngineCensus
import PacketTunnel.Scripted.Engine

/-!
# The life of engines

However a bridge is used, and whatever its engines do: at most one engine runs, it is shut down once
and before the next one is set up, and it is only called while it runs. The timer runs exactly while
an engine does, and sessions are there only then. A start that fails leaves no engine behind.
-/

namespace PacketTunnel.Bridge

variable {φ σ : Type}

/-- Whether a message asks for the engine that runs to be shut down. -/
def Message.Ends : Message → Prop
  | .command (.start _) | .command .stop | .command .shutdown => True
  | _ => False

namespace Actor

/-- To stop an engine, it is shut down. -/
theorem shutdown_mem_stop (k : Kind φ σ) {a : Actor φ σ} {live : Live σ}
    (h : a.engine = some live) : .engine live.number .shutdown ∈ (a.stop k).effects := by
  obtain ⟨output, heffects, -⟩ := stop_live k h
  rw [heffects]
  exact List.mem_append_right _ List.mem_cons_self

/-- A turn that goes on does what it did before. -/
theorem mem_andThen {t : Turn φ σ} {x : Effect} (h : x ∈ t.effects) (next : Actor φ σ → Turn φ σ) :
    x ∈ (t.andThen next).effects := by
  rw [Turn.andThen]
  split
  · exact h
  · exact List.mem_append_left _ h

/-- A stop answers no start and leaves the counters alone. -/
theorem stop_quiet (k : Kind φ σ) (a : Actor φ σ) :
    (∀ result, .started result ∉ (a.stop k).effects) ∧ (a.stop k).actor.traffic = a.traffic := by
  have hcancels (result : Except Error Unit) : .started result ∉ a.cancels := by
    intro h
    obtain ⟨effect, -, heq⟩ := List.mem_map.mp h
    cases heq
  rcases hengine : a.engine with _ | live
  · rw [stop_idle k hengine]
    exact ⟨hcancels, rfl⟩
  · obtain ⟨output, heffects, hactor⟩ := stop_live k hengine
    constructor
    · intro result h
      rw [heffects, Live.shutDown, List.mem_append, List.cons_append, List.mem_cons,
        List.mem_append, List.mem_singleton] at h
      rcases h with h | h | h | h
      · exact hcancels result h
      · cases h
      · obtain ⟨emission, -, heq⟩ := List.mem_map.mp h
        cases heq
      · cases h
    · rcases hactor with ⟨-, hactor⟩ | ⟨-, hactor⟩ <;> rw [hactor] <;> rfl

/-- An attempt that fails leaves everything but epoch and workshop as it was. -/
theorem setUp_failed {k : Kind φ σ} {config : Config} {a : Actor φ σ} {cause : Error}
    (h : .started (.error cause) ∈ (a.setUp k config).effects) :
    (a.setUp k config).broken = false ∧ (a.setUp k config).actor.engine = a.engine ∧
      (a.setUp k config).actor.traffic = a.traffic := by
  have hattempted (params : EngineParams) (output : List Emission) :
      .started (.error cause) ∉ a.attempted params output := by
    intro hmem
    rcases List.mem_cons.mp hmem with heq | hpost
    · exact absurd heq nofun
    · obtain ⟨emission, -, heq⟩ := List.mem_map.mp hpost
      exact absurd heq nofun
  rw [setUp] at h ⊢
  rcases hparams : config.engineParams with fault | params
  · exact ⟨rfl, rfl, rfl⟩
  · rcases hinit : k.init a.workshop params with ⟨workshop, output, state | - | -⟩
    · simp only [hparams, hinit] at h
      rcases List.mem_append.mp h with hmem | hmem
      · exact absurd hmem (hattempted params output)
      · simp only [List.mem_cons, reduceCtorEq, Effect.started.injEq, List.not_mem_nil,
          or_self] at hmem
    · simp only [hinit]
      exact ⟨rfl, rfl, rfl⟩
    · simp only [hparams, hinit] at h
      exact absurd h (hattempted params output)

/-- A start that fails leaves no engine, and the counters as they were. -/
theorem start_failed {k : Kind φ σ} {config : Config} {a : Actor φ σ} {cause : Error}
    (h : .started (.error cause) ∈ (a.start k config).effects) :
    (a.start k config).broken = false ∧ (a.start k config).actor.engine = none ∧
      (a.start k config).actor.traffic = a.traffic := by
  obtain ⟨hquiet, htraffic⟩ := stop_quiet k a
  rw [start, Turn.andThen] at h ⊢
  split at h
  · exact absurd h (hquiet _)
  · next hgoes =>
    have hset := (List.mem_append.mp h).resolve_left (hquiet _)
    obtain ⟨hbroken, hengine, hcounters⟩ := setUp_failed hset
    rw [if_neg hgoes]
    exact ⟨hbroken, hengine.trans (engine_stop k a), hcounters.trans htraffic⟩

end Actor

namespace Loop

variable {k : Kind φ σ} {workshop : φ} {period : Nat} {record : List (Worked φ σ)}
  {last : Option (Loop φ σ)} {l : Loop φ σ}

/-- What is known of engines is in line with the bridge. -/
theorem Run.fits (h : Run k (fresh workshop period) record (some l)) :
    (Census.empty workshop).Lawful k (effectsOf record) ∧
      (Census.of k workshop (effectsOf record)).Fits l.actor := by
  refine h.kept (I := fun done a => (Census.empty workshop).Lawful k done ∧
    (Census.of k workshop done).Fits a)
    ⟨trivial, Census.fits_idle workshop⟩ fun ⟨hlawful, hfits⟩ hmove => ?_
  obtain ⟨heffects, hnext⟩ := hfits.move hmove
  rw [Census.of_append, Census.lawful_append]
  exact ⟨⟨hlawful, heffects⟩, hnext rfl⟩

/-- Whatever is done to engines is in order, up to the end of the bridge. -/
theorem Run.lawful (h : Run k (fresh workshop period) record last) :
    (Census.empty workshop).Lawful k (effectsOf record) := by
  refine h.done (I := fun done a => (Census.empty workshop).Lawful k done ∧
      (Census.of k workshop done).Fits a)
    (J := (Census.empty workshop).Lawful k) ⟨trivial, Census.fits_idle workshop⟩ ?_ ?_ ?_
  · rintro done a b effects ⟨hlawful, hfits⟩ hmove
    obtain ⟨heffects, hnext⟩ := hfits.move hmove
    rw [Census.of_append, Census.lawful_append]
    exact ⟨⟨hlawful, heffects⟩, hnext rfl⟩
  · rintro done a ⟨hlawful, -⟩
    refine ⟨hlawful, Census.lawful_append.mpr ⟨hlawful, ?_⟩⟩
    rw [dropEngine]
    cases a.engine with
    | none => exact trivial
    | some live => exact ⟨trivial, trivial⟩
  · rintro done a b effects ⟨hlawful, hfits⟩ hmove
    exact Census.lawful_append.mpr ⟨hlawful, (hfits.move hmove).1⟩

/-- A message that asks for it has the engine that runs shut down. -/
theorem shutdown_mem_worked (k : Kind φ σ) {live : Live σ} (hengine : l.actor.engine = some live)
    {m : Message} (hm : m.Ends) (now : Nat) :
    .engine live.number .shutdown ∈ (l.worked k now m).effects := by
  have hturn : .engine live.number .shutdown ∈ (l.turn k m).effects := by
    have hstop := Actor.shutdown_mem_stop k hengine
    cases m with
    | notification | tick => exact hm.elim
    | command c =>
      cases c with
      | start config => exact Actor.mem_andThen hstop _
      | stop | shutdown => exact hstop
      | traffic | sessions | hostPackets | emitted | written => exact hm.elim
  rcases work_cases k l now m with ⟨next, hwork, -⟩ | ⟨hwork, -⟩ | hwork
  · simp only [worked, hwork]
    exact hturn
  · simp only [worked, hwork]
    exact hturn
  · simp only [worked, hwork]
    exact List.mem_append_left _ hturn

/-- After a start that fails the bridge goes on without an engine. -/
theorem worked_failed {config : Config} {now : Nat} {cause : Error}
    (h : .started (.error cause) ∈ (l.worked k now (.command (.start config))).effects) :
    ∃ next, (l.worked k now (.command (.start config))).after = some next ∧
      next.actor.engine = none ∧ next.actor.traffic = l.actor.traffic := by
  have hturn : .started (.error cause) ∈ (l.actor.start k config).effects := by
    rcases work_cases k l now (.command (.start config)) with
      ⟨next, hwork, -⟩ | ⟨hwork, -⟩ | hwork
    · simp only [worked, hwork] at h
      exact h
    · simp only [worked, hwork] at h
      exact h
    · simp only [worked, hwork] at h
      refine (List.mem_append.mp h).resolve_right fun hdrop => ?_
      rw [dropEngine] at hdrop
      split at hdrop
      · exact absurd hdrop List.not_mem_nil
      · cases List.mem_singleton.mp hdrop
  obtain ⟨hbroken, hengine, htraffic⟩ := Actor.start_failed hturn
  have hidle : (l.actor.start k config).actor.isLive = false := by
    rw [Actor.isLive, hengine, Option.isSome_none]
  refine ⟨⟨(l.actor.start k config).actor, none, l.period⟩, ?_, hengine, htraffic⟩
  have hturned : l.turn k (.command (.start config)) = l.actor.start k config := rfl
  simp only [worked, work, hturned, hbroken, Bool.false_eq_true, ite_false, isLast, settle, hidle]

/-- How a bridge deals with the engines that are made for it in a run. An engine is returned by an
attempt to set one up, and the attempts are those that the record tells. -/
structure EngineLife (k : Kind φ σ) (workshop : φ) (record : List (Worked φ σ)) : Prop where
  /-- At any time at most one engine runs. -/
  one : ∀ before rest, effectsOf record = before ++ rest →
    (Census.of k workshop before).live.length ≤ 1
  /-- No engine is shut down twice, and none that was not returned. -/
  once : (Census.of k workshop (effectsOf record)).closed.Nodup ∧
    ∀ n ∈ (Census.of k workshop (effectsOf record)).closed,
      n ∈ (Census.of k workshop (effectsOf record)).returned
  /-- An engine that is there when a start, a stop or a shutdown comes is shut down by then, and
  just once. -/
  ended : ∀ before now after, record = before ++ now :: after → now.message.Ends →
    ∀ n ∈ (Census.of k workshop (effectsOf before)).returned,
      n ∈ (Census.of k workshop (effectsOf (before ++ [now]))).closed ∧
        (Census.of k workshop (effectsOf record)).closed.count n = 1
  /-- When an engine is set up, all before it have been shut down. -/
  init : ∀ before n epoch params rest,
    effectsOf record = before ++ .engine n (.init epoch params) :: rest →
    ∀ m ∈ (Census.of k workshop before).returned, m ∈ (Census.of k workshop before).closed
  /-- An engine is only called while it runs. -/
  used : ∀ before n call rest, effectsOf record = before ++ .engine n call :: rest → call.Use →
    (Census.of k workshop before).live = [n]
  /-- A start is answered with success only when an engine runs, and with an error only when none
  does. -/
  answered : ∀ before result rest, effectsOf record = before ++ .started result :: rest →
    (result = .ok () ↔ (Census.of k workshop before).live ≠ [])
  /-- After each message every attempt is on record, and every engine that one has returned runs or
  was shut down. The engine of the bridge is the one that runs, the timer runs exactly if there is
  one, and there are no sessions if there is none. -/
  settled : ∀ before now after l, record = before ++ now :: after → now.after = some l →
    (Census.of k workshop (effectsOf (before ++ [now]))).workshop = l.actor.workshop ∧
      (∀ n ∈ (Census.of k workshop (effectsOf (before ++ [now]))).returned,
        n ∈ (Census.of k workshop (effectsOf (before ++ [now]))).closed ∨
          n ∈ (Census.of k workshop (effectsOf (before ++ [now]))).live) ∧
      (Census.of k workshop (effectsOf (before ++ [now]))).live =
        (l.actor.engine.map (·.number)).toList ∧
      l.timer.isSome = l.actor.isLive ∧
      (l.actor.isLive = false → l.actor.table.entries = [] ∧ l.actor.table.byEndpoint = [])
  /-- After a start that failed the bridge goes on without an engine, every engine so far has been
  shut down, and the counters are as they were. -/
  failed : ∀ before now after config cause, record = before ++ now :: after →
    now.message = .command (.start config) → .started (.error cause) ∈ now.effects →
    ∃ l, now.after = some l ∧ l.actor.engine = none ∧
      l.actor.traffic = now.before.actor.traffic ∧
      ∀ n ∈ (Census.of k workshop (effectsOf (before ++ [now]))).returned,
        n ∈ (Census.of k workshop (effectsOf (before ++ [now]))).closed

/-- Every bridge deals with engines in this way, whatever it is told and whatever its engines do. -/
theorem engineLife_run (k : Kind φ σ) (workshop : φ) (period : Nat)
    (messages : List (Nat × Message)) :
    EngineLife k workshop ((fresh workshop period).run k messages).1 := by
  have hrun := run_fresh k (fresh workshop period) messages
  generalize ((fresh workshop period).run k messages).1 = record,
    ((fresh workshop period).run k messages).2 = last at hrun
  have hlawful := hrun.lawful
  have hsound := (Census.sound_empty workshop).foldl hlawful
  refine ⟨?_, ⟨hsound.once, hsound.closed⟩, ?_, ?_, ?_, ?_, ?_, ?_⟩
  · intro before rest heq
    rw [heq] at hlawful
    exact ((Census.sound_empty workshop).foldl (Census.lawful_append.mp hlawful).1).one
  · rintro before now after rfl hends n hn
    obtain ⟨hbefore, -, time, hnow⟩ := hrun.at_message
    obtain ⟨-, hfits⟩ := hbefore.fits
    have hclosed : n ∈ (Census.of k workshop (effectsOf (before ++ [now]))).closed := by
      rw [effectsOf_append, effectsOf_singleton, Census.of_append]
      rcases hfits.returned n hn with hold | hlive
      · exact (Census.subset_foldl k _ _).2.2 hold
      · rcases hengine : now.before.actor.engine with _ | live
        · rw [hfits.live_nil hengine] at hlive
          exact absurd hlive List.not_mem_nil
        · rw [hfits.live_eq hengine] at hlive
          rw [List.mem_singleton.mp hlive, hnow]
          exact Census.mem_closed (shutdown_mem_worked k hengine hends time) k _
    refine ⟨hclosed, List.count_eq_one_of_mem hsound.once ?_⟩
    rw [List.append_cons, effectsOf_append, Census.of_append]
    exact (Census.subset_foldl k _ _).2.2 hclosed
  · intro before n epoch params rest heq
    exact (hlawful.allows heq).2.2
  · intro before n call rest heq huse
    have hallows := hlawful.allows heq
    cases call with
    | init | shutdown | drop => exact huse.elim
    | host | tunnel | tick => exact hallows
  · intro before result rest heq
    have hallows := hlawful.allows heq
    rcases result with cause | ⟨⟩
    · exact ⟨fun hok => (by cases hok), fun hlive => absurd hallows hlive⟩
    · exact ⟨fun _ => hallows, fun _ => rfl⟩
  · rintro before now after l rfl hafter
    obtain ⟨-, hnext, -⟩ := hrun.at_message
    rw [hafter] at hnext
    obtain ⟨-, hfits⟩ := hnext.fits
    refine ⟨hfits.workshop, hfits.returned, hfits.live, hnext.settled, fun hidle => ?_⟩
    have hnone := hfits.cleared (Option.not_isSome_iff_eq_none.mp (Bool.eq_false_iff.mp hidle))
    exact ⟨hnone, hfits.indexed.byEndpoint_eq_nil hnone⟩
  · rintro before now after config cause rfl hmessage hstarted
    obtain ⟨-, hnext, time, hnow⟩ := hrun.at_message
    rw [hmessage] at hnow
    rw [hnow] at hstarted
    obtain ⟨l, hafter, hengine, htraffic⟩ := worked_failed hstarted
    rw [← hnow] at hafter
    rw [hafter] at hnext
    exact ⟨l, hafter, hengine, htraffic, hnext.fits.2.closed_of_returned hengine⟩

/-- Engines that do nothing, the second of which is refused. -/
def unwilling : Scripted.Script := ⟨[], [], [], [], [], [1]⟩

/-- An engine is started and called, a start fails, and then another engine is started, until the
end. -/
def replacing : List (Nat × Message) :=
  [(0, .command (.start complete)), (1, .tick), (2, .command (.start complete)),
    (3, .command (.start complete)), (4, .command .shutdown)]

/-- Three attempts were made. The first engine and the last were shut down, once each; there was no
other. -/
theorem engineLife_replacing :
    Census.of unwilling.kind 0 (effectsOf ((fresh 0 1).run unwilling.kind replacing).1) =
      ⟨3, [], [0, 2], [1], [0, 2]⟩ ∧
    EngineLife unwilling.kind 0 ((fresh 0 1).run unwilling.kind replacing).1 :=
  ⟨by decide, engineLife_run unwilling.kind 0 1 replacing⟩

end Loop

end PacketTunnel.Bridge
