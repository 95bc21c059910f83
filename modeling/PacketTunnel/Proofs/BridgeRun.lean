import PacketTunnel.Bridge.Loop
import PacketTunnel.Proofs.BridgeMove

/-!
# Runs of a bridge

A run is a series of messages that a bridge works on, on record with what is done about each and
with the bridge before and after it. A run goes on until a message ends it. What every move keeps
holds in every run, of the effects so far and of the bridge that they lead to.
-/

namespace PacketTunnel.Bridge

variable {φ σ : Type}

/-- A message that was worked on. -/
structure Worked (φ σ : Type) where
  /-- The bridge that found the message. -/
  before : Loop φ σ
  /-- The message. -/
  message : Message
  /-- What was done. -/
  effects : List Effect
  /-- The bridge afterwards, unless it has ended. -/
  after : Option (Loop φ σ)

namespace Loop

/-- Work on a message, for the record. -/
def worked (k : Kind φ σ) (l : Loop φ σ) (now : Nat) (m : Message) : Worked φ σ :=
  ⟨l, m, (l.work k now m).1, (l.work k now m).2⟩

/-- Work on messages, each at its time, until one ends the bridge: the record, and the bridge
afterwards. -/
def run (k : Kind φ σ) (l : Loop φ σ) :
    List (Nat × Message) → List (Worked φ σ) × Option (Loop φ σ)
  | [] => ([], some l)
  | (now, m) :: rest =>
    match (l.worked k now m).after with
    | none => ([l.worked k now m], none)
    | some next =>
      let (record, last) := run k next rest
      (l.worked k now m :: record, last)

/-- What is done in a run. -/
def effectsOf (record : List (Worked φ σ)) : List Effect := record.flatMap (·.effects)

/-- Whether the timer runs just if an engine does. -/
def Settled (l : Loop φ σ) : Prop := l.timer.isSome = l.actor.isLive

/-- A run, from its start up to any message. -/
inductive Run (k : Kind φ σ) (start : Loop φ σ) :
    List (Worked φ σ) → Option (Loop φ σ) → Prop where
  /-- Nothing has happened. -/
  | nil : Run k start [] (some start)
  /-- One more message is worked on. -/
  | snoc {record : List (Worked φ σ)} {l : Loop φ σ} (h : Run k start record (some l)) (now : Nat)
      (m : Message) : Run k start (record ++ [l.worked k now m]) (l.worked k now m).after

theorem effectsOf_append (record more : List (Worked φ σ)) :
    effectsOf (record ++ more) = effectsOf record ++ effectsOf more := List.flatMap_append

theorem effectsOf_singleton (w : Worked φ σ) : effectsOf [w] = w.effects :=
  List.flatMap_singleton ..

theorem effectsOf_cons (w : Worked φ σ) (record : List (Worked φ σ)) :
    effectsOf (w :: record) = w.effects ++ effectsOf record := List.flatMap_cons

/-- Every run is one from its start. -/
theorem Run.run {k : Kind φ σ} {start l : Loop φ σ} {record : List (Worked φ σ)}
    (h : Run k start record (some l)) (messages : List (Nat × Message)) :
    Run k start (record ++ (l.run k messages).1) (l.run k messages).2 := by
  induction messages generalizing l record with
  | nil =>
    rw [Loop.run, List.append_nil]
    exact h
  | cons message rest ih =>
    obtain ⟨now, m⟩ := message
    have hsnoc := h.snoc now m
    rcases hafter : (l.worked k now m).after with _ | next
    · rw [hafter] at hsnoc
      simp only [Loop.run, hafter]
      exact hsnoc
    · rw [hafter] at hsnoc
      have hrest := ih hsnoc
      rw [List.append_assoc] at hrest
      simp only [Loop.run, hafter]
      exact hrest

theorem run_fresh (k : Kind φ σ) (start : Loop φ σ) (messages : List (Nat × Message)) :
    Run k start (start.run k messages).1 (start.run k messages).2 := Run.nil.run messages

/-- A run goes on where it was. -/
theorem run_append_some (k : Kind φ σ) {l next : Loop φ σ} {messages : List (Nat × Message)}
    (h : (l.run k messages).2 = some next) (more : List (Nat × Message)) :
    l.run k (messages ++ more) =
      ((l.run k messages).1 ++ (next.run k more).1, (next.run k more).2) := by
  induction messages generalizing l with
  | nil =>
    obtain rfl : l = next := Option.some.inj h
    rfl
  | cons message rest ih =>
    obtain ⟨now, m⟩ := message
    rcases hafter : (l.worked k now m).after with _ | found
    · simp only [run, hafter] at h
      exact absurd h.symm (Option.some_ne_none _)
    · simp only [run, hafter] at h
      simp only [List.cons_append, run, hafter, ih h]

/-- A run that has ended does not go on. -/
theorem run_append_none (k : Kind φ σ) {l : Loop φ σ} {messages : List (Nat × Message)}
    (h : (l.run k messages).2 = none) (more : List (Nat × Message)) :
    l.run k (messages ++ more) = l.run k messages := by
  induction messages generalizing l with
  | nil => exact absurd h (Option.some_ne_none _)
  | cons message rest ih =>
    obtain ⟨now, m⟩ := message
    rcases hafter : (l.worked k now m).after with _ | found
    · simp only [List.cons_append, run, hafter]
    · simp only [run, hafter] at h
      simp only [List.cons_append, run, hafter, ih h]

/-- A message that was worked on found a bridge that a run led to, and is the last of a run. -/
theorem Run.at_message {k : Kind φ σ} {start : Loop φ σ} {before after : List (Worked φ σ)}
    {w : Worked φ σ} {last : Option (Loop φ σ)} (h : Run k start (before ++ w :: after) last) :
    Run k start before (some w.before) ∧ Run k start (before ++ [w]) w.after ∧
      ∃ now, w = w.before.worked k now w.message := by
  generalize hrecord : before ++ w :: after = record at h
  induction h generalizing after with
  | nil => exact absurd hrecord (List.append_ne_nil_of_right_ne_nil _ (List.cons_ne_nil _ _))
  | @snoc record l h now m ih =>
    rcases List.eq_nil_or_concat after with rfl | ⟨rest, last, rfl⟩
    · obtain ⟨rfl, hw⟩ := List.append_inj' hrecord rfl
      obtain ⟨rfl, -⟩ := List.cons.inj hw
      exact ⟨h, h.snoc now m, now, rfl⟩
    · rw [List.concat_eq_append, ← List.cons_append, ← List.append_assoc] at hrecord
      exact ih (List.append_inj' hrecord rfl).1

/-- So every message on record found a bridge that a run led to. -/
theorem Run.exists_before {k : Kind φ σ} {start : Loop φ σ} {record : List (Worked φ σ)}
    {w : Worked φ σ} {last : Option (Loop φ σ)} (h : Run k start record last) (hw : w ∈ record) :
    ∃ before, Run k start before (some w.before) ∧ ∃ now, w = w.before.worked k now w.message := by
  obtain ⟨before, after, rfl⟩ := List.append_of_mem hw
  obtain ⟨hbefore, -, hworked⟩ := h.at_message
  exact ⟨before, hbefore, hworked⟩

/-- The timer is in line afterwards, or it cannot be made, and the engine is given up. -/
theorem settle_cases (now : Nat) (l : Loop φ σ) :
    (∃ next, settle now l = ([], some next) ∧ next.actor = l.actor ∧ next.Settled) ∨
      settle now l = (dropEngine l.actor, none) := by
  rw [settle]
  rcases hlive : l.actor.isLive with _ | _
  · exact .inl ⟨{ l with timer := none }, rfl, rfl, hlive.symm⟩
  · rcases htimer : l.timer with _ | timer
    · dsimp only
      split
      · exact .inl ⟨{ l with timer := some (.start now l.period) }, rfl, rfl, hlive.symm⟩
      · exact .inr rfl
    · refine .inl ⟨l, rfl, rfl, ?_⟩
      rw [Settled, htimer, hlive]
      rfl

/-- What working on a message comes to: the turn, with the timer in line; the turn of the last
message; or the end of the bridge, which gives up an engine that still runs. -/
theorem work_cases (k : Kind φ σ) (l : Loop φ σ) (now : Nat) (m : Message) :
    (∃ next, l.work k now m = ((l.turn k m).effects, some next) ∧ (l.turn k m).broken = false ∧
      next.actor = (l.turn k m).actor ∧ next.Settled) ∨
    l.work k now m = ((l.turn k m).effects, none) ∧ (l.turn k m).broken = false ∨
    l.work k now m = ((l.turn k m).effects ++ dropEngine (l.turn k m).actor, none) := by
  rw [work]
  rcases hbroken : (l.turn k m).broken with _ | _
  · rcases hlast : isLast m with _ | _
    · simp only [Bool.false_eq_true, ite_false]
      rcases settle_cases now { l with actor := (l.turn k m).actor, timer := l.timerAfter now m }
        with ⟨next, hsettle, hactor, hsettled⟩ | hsettle
      · rw [hsettle]
        exact .inl ⟨next, by simp only [List.append_nil], trivial, hactor, hsettled⟩
      · rw [hsettle]
        exact .inr (.inr rfl)
    · exact .inr (.inl ⟨rfl, rfl⟩)
  · exact .inr (.inr rfl)

/-- A bridge that goes on is the one that the turn left. -/
theorem actor_of_after {k : Kind φ σ} {l next : Loop φ σ} {now : Nat} {m : Message}
    (h : (l.worked k now m).after = some next) :
    next.actor = (l.turn k m).actor ∧ (l.turn k m).broken = false := by
  rcases work_cases k l now m with ⟨found, hwork, hbroken, hactor, -⟩ | ⟨hwork, -⟩ | hwork
  · simp only [worked, hwork, Option.some.injEq] at h
    exact ⟨h ▸ hactor, hbroken⟩
  · simp [worked, hwork] at h
  · simp [worked, hwork] at h

/-- Who does not look at engines that are given up sees of work on a message only its turn. -/
theorem filterMap_worked {α : Type} {look : Effect → Option α}
    (h : ∀ number, look (.engine number .drop) = none) (k : Kind φ σ) (l : Loop φ σ) (now : Nat)
    (m : Message) :
    (l.worked k now m).effects.filterMap look = (l.turn k m).effects.filterMap look := by
  have hdrop : (dropEngine (l.turn k m).actor).filterMap look = [] := by
    rw [dropEngine]
    split <;> simp [h]
  rcases work_cases k l now m with ⟨next, hwork, -⟩ | ⟨hwork, -⟩ | hwork
  · simp [worked, hwork]
  · simp [worked, hwork]
  · simp [worked, hwork, hdrop]

/-- A turn is a series of moves. -/
theorem moved_turn (k : Kind φ σ) (l : Loop φ σ) (m : Message) : l.actor.Moved k (l.turn k m) := by
  cases m with
  | command c => exact Actor.moved_command k l.actor c
  | notification n => exact Actor.moved_notification k l.actor n
  | tick => exact Actor.moved_tick k l.actor

section Kept

variable {k : Kind φ σ} {workshop : φ} {period : Nat} {record : List (Worked φ σ)}
  {I : List Effect → Actor φ σ → Prop}

/-- What every move keeps holds after a series of moves; if an engine breaks, it holds before the
last of them. -/
theorem kept_moves (hmove : ∀ {done : List Effect} {a b : Actor φ σ} {effects : List Effect},
      I done a → a.Move k effects false b → I (done ++ effects) b)
    {done effects : List Effect} {a b : Actor φ σ} {broken : Bool}
    (h : a.Moves k effects broken b) (ha : I done a) :
    broken = false ∧ I (done ++ effects) b ∨ ∃ before c last, broken = true ∧
      effects = before ++ last ∧ I (done ++ before) c ∧ c.Move k last true b := by
  induction h generalizing done with
  | nil a =>
    rw [List.append_nil]
    exact .inl ⟨rfl, ha⟩
  | cons first rest ih =>
    rcases ih (hmove ha first) with ⟨hgoes, hb⟩ | ⟨before, c, last, hbroken, rfl, hc, hlast⟩
    · rw [List.append_assoc] at hb
      exact .inl ⟨hgoes, hb⟩
    · rw [List.append_assoc] at hc
      exact .inr ⟨_, c, last, hbroken, (List.append_assoc _ _ _).symm, hc, hlast⟩
  | @broken a b effects last =>
    exact .inr ⟨[], a, effects, rfl, rfl, (List.append_nil done).symm ▸ ha, last⟩

/-- What holds of a bridge that has done nothing, and is kept by every move, holds in every run. -/
theorem Run.kept {l : Loop φ σ} (hidle : I [] (.idle workshop))
    (hmove : ∀ {done : List Effect} {a b : Actor φ σ} {effects : List Effect}, I done a →
      a.Move k effects false b → I (done ++ effects) b)
    (h : Run k (fresh workshop period) record (some l)) : I (effectsOf record) l.actor := by
  generalize hlast : some l = last at h
  induction h generalizing l with
  | nil =>
    obtain rfl := Option.some.inj hlast
    exact hidle
  | @snoc record found h now m ih =>
    rw [effectsOf_append, effectsOf_singleton]
    rcases work_cases k found now m with ⟨next, hwork, hbroken, hactor, -⟩ | ⟨hwork, -⟩ | hwork
    · simp only [worked, hwork] at hlast ⊢
      obtain rfl := Option.some.inj hlast
      rcases kept_moves hmove (moved_turn k found m) (ih rfl) with
        ⟨-, hkept⟩ | ⟨_, _, _, htrue, -⟩
      · rw [hactor]
        exact hkept
      · exact absurd (hbroken.symm.trans htrue) Bool.false_ne_true
    · simp only [worked, hwork] at hlast
      exact absurd hlast (Option.some_ne_none _)
    · simp only [worked, hwork] at hlast
      exact absurd hlast (Option.some_ne_none _)

/-- What is done in a run has a property if what was done so far has it in every state that is
kept, also if an engine breaks then or is given up. -/
theorem Run.done {last : Option (Loop φ σ)} {J : List Effect → Prop}
    (hidle : I [] (.idle workshop))
    (hmove : ∀ {done : List Effect} {a b : Actor φ σ} {effects : List Effect}, I done a →
      a.Move k effects false b → I (done ++ effects) b)
    (hdrop : ∀ {done : List Effect} {a : Actor φ σ}, I done a →
      J done ∧ J (done ++ dropEngine a))
    (hbreak : ∀ {done : List Effect} {a b : Actor φ σ} {effects : List Effect}, I done a →
      a.Move k effects true b → J (done ++ effects))
    (h : Run k (fresh workshop period) record last) : J (effectsOf record) := by
  cases h with
  | nil => exact (hdrop hidle).1
  | @snoc record found h now m =>
    have hturn := kept_moves hmove (moved_turn k found m) (h.kept hidle hmove)
    have heffects : J (effectsOf record ++ (found.turn k m).effects) ∧
        J (effectsOf record ++ (found.turn k m).effects ++
          dropEngine (found.turn k m).actor) := by
      rcases hturn with ⟨-, hkept⟩ | ⟨before, c, last, -, heq, hc, hbroken⟩
      · exact hdrop hkept
      · have hall := hbreak hc hbroken
        rw [dropEngine, hbroken.engine_eq_none, List.append_nil, heq, ← List.append_assoc]
        exact ⟨hall, hall⟩
    rw [effectsOf_append, effectsOf_singleton]
    rcases work_cases k found now m with ⟨next, hwork, -⟩ | ⟨hwork, -⟩ | hwork
    · simp only [worked, hwork]
      exact heffects.1
    · simp only [worked, hwork]
      exact heffects.1
    · simp only [worked, hwork]
      rw [← List.append_assoc]
      exact heffects.2

end Kept

/-- Every message leaves the timer in line with the engine. -/
theorem Run.settled {k : Kind φ σ} {workshop : φ} {period : Nat} {record : List (Worked φ σ)}
    {l : Loop φ σ} (h : Run k (fresh workshop period) record (some l)) : l.Settled := by
  generalize hlast : some l = last at h
  cases h with
  | nil =>
    obtain rfl := Option.some.inj hlast
    rfl
  | @snoc record found h now m =>
    rcases work_cases k found now m with ⟨next, hwork, -, -, hsettled⟩ | ⟨hwork, -⟩ | hwork
    · simp only [worked, hwork] at hlast
      obtain rfl := Option.some.inj hlast
      exact hsettled
    · simp only [worked, hwork] at hlast
      exact absurd hlast (Option.some_ne_none _)
    · simp only [worked, hwork] at hlast
      exact absurd hlast (Option.some_ne_none _)

/-- A configuration that an engine can be started with. -/
def complete : Config :=
  ⟨⟨.replicate 32 0⟩, ⟨⟨.replicate 32 0⟩, some (.v4 ⟨10, 0, 0, 1⟩ 51820)⟩, none⟩

end Loop

end PacketTunnel.Bridge
