import PacketTunnel.Proofs.BridgeRun
import PacketTunnel.Proofs.SessionRun

/-!
# The engines of a bridge

Which engines a bridge was given, which of them run and which were shut down is told by the calls
that it has made: the attempts are made over again in their order, so that an engine counts from the
moment at which its attempt returns it, whatever the bridge makes of it then. Moves keep to an order
in this: an engine is set up only when every one before it was shut down, it is called only while it
runs, and it is shut down once.
-/

namespace PacketTunnel.Bridge

open Session

variable {φ σ : Type}

/-- What is known about engines from what was done. -/
structure Census (φ : Type) where
  /-- What makes engines, after the attempts so far. -/
  workshop : φ
  /-- The engines that run. -/
  live : List Nat
  /-- The engines that attempts have returned. -/
  returned : List Nat
  /-- The attempts that were refused. -/
  refused : List Nat
  /-- The engines that were shut down, each time one was. -/
  closed : List Nat
  deriving DecidableEq, Repr

namespace Census

variable {k : Kind φ σ}

/-- Nothing was done. -/
def empty (workshop : φ) : Census φ := ⟨workshop, [], [], [], []⟩

/-- What is known after an attempt to set up an engine, which is made over again. -/
def attempt (k : Kind φ σ) (c : Census φ) (n : Nat) (params : EngineParams) : Census φ :=
  match k.init c.workshop params with
  | (workshop, _, .running _) =>
    { c with workshop, live := c.live ++ [n], returned := c.returned ++ [n] }
  | (workshop, _, .refused) => { c with workshop, refused := c.refused ++ [n] }
  | (workshop, _, .broken) => { c with workshop }

/-- What is known after an effect. -/
def after (k : Kind φ σ) (c : Census φ) : Effect → Census φ
  | .engine n (.init _ params) => c.attempt k n params
  | .engine n .shutdown => { c with live := c.live.filter (· ≠ n), closed := c.closed ++ [n] }
  | .engine n .drop => { c with live := c.live.filter (· ≠ n) }
  | _ => c

/-- What is known after several effects. -/
def of (k : Kind φ σ) (workshop : φ) (effects : List Effect) : Census φ :=
  effects.foldl (after k) (empty workshop)

/-- Whether an effect is in order. -/
def Allows (c : Census φ) : Effect → Prop
  | .engine n (.init _ _) => c.live = [] ∧ n ∉ c.returned ∧ ∀ m ∈ c.returned, m ∈ c.closed
  | .engine n (.host _) | .engine n (.tunnel _) | .engine n .tick => c.live = [n]
  | .engine n .shutdown => c.live = [n] ∧ n ∈ c.returned ∧ n ∉ c.closed
  | .started (.ok ()) => c.live ≠ []
  | .started (.error _) => c.live = []
  | _ => True

/-- Whether several effects are in order, one after the other. -/
def Lawful (k : Kind φ σ) (c : Census φ) : List Effect → Prop
  | [] => True
  | x :: rest => c.Allows x ∧ (c.after k x).Lawful k rest

theorem of_append (workshop : φ) (effects more : List Effect) :
    of k workshop (effects ++ more) = more.foldl (after k) (of k workshop effects) :=
  List.foldl_append

theorem lawful_append {c : Census φ} {effects more : List Effect} :
    c.Lawful k (effects ++ more) ↔
      c.Lawful k effects ∧ (effects.foldl (after k) c).Lawful k more := by
  induction effects generalizing c with
  | nil => exact ⟨fun h => ⟨trivial, h⟩, And.right⟩
  | cons x rest ih => rw [List.cons_append, Lawful, Lawful, List.foldl_cons, ih, and_assoc]

/-- Every effect of a series in order is in order where it stands. -/
theorem Lawful.allows {workshop : φ} {effects before rest : List Effect} {x : Effect}
    (h : (empty workshop).Lawful k effects) (heq : effects = before ++ x :: rest) :
    (of k workshop before).Allows x := by
  subst heq
  exact (lawful_append.mp h).2.1

/-- At most one engine runs, and those that were shut down were returned before, and not shut down
twice. -/
structure Sound (c : Census φ) : Prop where
  /-- At most one engine runs. -/
  one : c.live.length ≤ 1
  /-- None was shut down twice. -/
  once : c.closed.Nodup
  /-- None was shut down that was not returned. -/
  closed : ∀ n ∈ c.closed, n ∈ c.returned

theorem Sound.attempt {c : Census φ} (h : c.Sound) (hlive : c.live = []) (n : Nat)
    (params : EngineParams) : (c.attempt k n params).Sound := by
  rw [Census.attempt]
  split
  · refine ⟨?_, h.once, fun m hm => List.mem_append_left _ (h.closed m hm)⟩
    rw [hlive, List.nil_append]
    exact Nat.le_refl 1
  · exact ⟨h.one, h.once, h.closed⟩
  · exact ⟨h.one, h.once, h.closed⟩

theorem Sound.after {c : Census φ} (h : c.Sound) {x : Effect} (hx : c.Allows x) :
    (c.after k x).Sound := by
  have hfewer (n : Nat) : (c.live.filter (· ≠ n)).length ≤ 1 :=
    Nat.le_trans (List.length_filter_le _ _) h.one
  cases x with
  | engine n call =>
    cases call with
    | init epoch params => exact h.attempt hx.1 n params
    | host | tunnel | tick => exact h
    | drop => exact ⟨hfewer n, h.once, h.closed⟩
    | shutdown =>
      obtain ⟨-, hreturned, hopen⟩ := hx
      refine ⟨hfewer n, List.nodup_append.mpr ⟨h.once, List.pairwise_singleton _ _, ?_⟩, ?_⟩
      · intro m hm n' hn' heq
        rw [heq, List.mem_singleton.mp hn'] at hm
        exact hopen hm
      · intro m hm
        rcases List.mem_append.mp hm with hold | hnew
        · exact h.closed m hold
        · exact List.mem_singleton.mp hnew ▸ hreturned
  | started | post | readHost | writeHost | session | traffic | sessions => exact h

/-- Effects in order leave a sound census. -/
theorem Sound.foldl {c : Census φ} (h : c.Sound) {effects : List Effect}
    (heffects : c.Lawful k effects) : (effects.foldl (Census.after k) c).Sound := by
  induction effects generalizing c with
  | nil => exact h
  | cons x rest ih => exact ih (h.after heffects.1) heffects.2

theorem sound_empty (workshop : φ) : (empty workshop).Sound :=
  ⟨Nat.zero_le 1, List.nodup_nil, fun _ h => absurd h List.not_mem_nil⟩

theorem subset_attempt (c : Census φ) (n : Nat) (params : EngineParams) :
    c.returned ⊆ (c.attempt k n params).returned ∧ c.refused ⊆ (c.attempt k n params).refused ∧
      c.closed ⊆ (c.attempt k n params).closed := by
  rw [attempt]
  split
  · exact ⟨List.subset_append_left _ _, List.Subset.refl _, List.Subset.refl _⟩
  · exact ⟨List.Subset.refl _, List.subset_append_left _ _, List.Subset.refl _⟩
  · exact ⟨List.Subset.refl _, List.Subset.refl _, List.Subset.refl _⟩

/-- Whatever is known stays known. -/
theorem subset_after (c : Census φ) (x : Effect) : c.returned ⊆ (c.after k x).returned ∧
    c.refused ⊆ (c.after k x).refused ∧ c.closed ⊆ (c.after k x).closed := by
  have hsame : c.returned ⊆ c.returned ∧ c.refused ⊆ c.refused ∧ c.closed ⊆ c.closed :=
    ⟨List.Subset.refl _, List.Subset.refl _, List.Subset.refl _⟩
  cases x with
  | engine n call =>
    cases call with
    | init epoch params => exact c.subset_attempt n params
    | shutdown => exact ⟨hsame.1, hsame.2.1, List.subset_append_left _ _⟩
    | host | tunnel | tick | drop => exact hsame
  | started | post | readHost | writeHost | session | traffic | sessions => exact hsame

theorem subset_foldl (k : Kind φ σ) (c : Census φ) (effects : List Effect) :
    c.returned ⊆ (effects.foldl (after k) c).returned ∧
      c.refused ⊆ (effects.foldl (after k) c).refused ∧
      c.closed ⊆ (effects.foldl (after k) c).closed := by
  induction effects generalizing c with
  | nil => exact ⟨List.Subset.refl _, List.Subset.refl _, List.Subset.refl _⟩
  | cons x rest ih =>
    obtain ⟨hreturned, hrefused, hclosed⟩ := c.subset_after (k := k) x
    obtain ⟨hreturned', hrefused', hclosed'⟩ := ih (c.after k x)
    exact ⟨List.Subset.trans hreturned hreturned', List.Subset.trans hrefused hrefused',
      List.Subset.trans hclosed hclosed'⟩

/-- An engine that is shut down is known to be. -/
theorem mem_closed {n : Nat} {effects : List Effect} (h : .engine n .shutdown ∈ effects)
    (k : Kind φ σ) (c : Census φ) : n ∈ (effects.foldl (after k) c).closed := by
  obtain ⟨before, rest, rfl⟩ := List.append_of_mem h
  rw [List.foldl_append, List.foldl_cons]
  exact (subset_foldl k _ rest).2.2 (List.mem_append_right _ (List.mem_singleton_self n))

end Census

/-- Effects that tell nothing about engines. -/
def Effect.Neutral : Effect → Prop
  | .engine _ _ | .started _ => False
  | _ => True

theorem Effect.Plain.neutral {x : Effect} (h : x.Plain) : x.Neutral := by
  cases x with
  | engine | post | session | started => exact h.elim
  | readHost | writeHost | traffic | sessions => exact trivial

namespace Census

variable {k : Kind φ σ}

theorem after_neutral {x : Effect} (h : x.Neutral) (c : Census φ) : c.after k x = c := by
  cases x with
  | engine | started => exact h.elim
  | post | readHost | writeHost | session | traffic | sessions => rfl

theorem allows_neutral {x : Effect} (h : x.Neutral) (c : Census φ) : c.Allows x := by
  cases x with
  | engine | started => exact h.elim
  | post | readHost | writeHost | session | traffic | sessions => exact trivial

theorem foldl_neutral {effects : List Effect} (h : ∀ x ∈ effects, x.Neutral) (c : Census φ) :
    effects.foldl (after k) c = c := by
  induction effects generalizing c with
  | nil => rfl
  | cons x rest ih =>
    obtain ⟨hx, hrest⟩ := List.forall_mem_cons.mp h
    rw [List.foldl_cons, after_neutral hx, ih hrest]

theorem lawful_neutral {effects : List Effect} (h : ∀ x ∈ effects, x.Neutral) (c : Census φ) :
    c.Lawful k effects := by
  induction effects generalizing c with
  | nil => exact trivial
  | cons x rest ih =>
    obtain ⟨hx, hrest⟩ := List.forall_mem_cons.mp h
    rw [Lawful, after_neutral hx]
    exact ⟨allows_neutral hx c, ih hrest c⟩

theorem neutral_posts (epoch : Nat) (output : List Emission) :
    ∀ x ∈ Actor.posts epoch output, x.Neutral := by
  intro x hx
  obtain ⟨emission, _, rfl⟩ := List.mem_map.mp hx
  exact trivial

theorem neutral_sessions (effects : List (Session.Effect WriteTag)) :
    ∀ x ∈ effects.map Effect.session, x.Neutral := by
  intro x hx
  obtain ⟨effect, _, rfl⟩ := List.mem_map.mp hx
  exact trivial

@[simp] theorem foldl_posts (c : Census φ) (epoch : Nat) (output : List Emission) :
    (Actor.posts epoch output).foldl (after k) c = c := foldl_neutral (neutral_posts epoch output) c

@[simp] theorem foldl_sessions (c : Census φ) (effects : List (Session.Effect WriteTag)) :
    (effects.map Effect.session).foldl (after k) c = c := foldl_neutral (neutral_sessions effects) c

@[simp] theorem lawful_posts (c : Census φ) (epoch : Nat) (output : List Emission) :
    c.Lawful k (Actor.posts epoch output) := lawful_neutral (neutral_posts epoch output) c

@[simp] theorem lawful_sessions (c : Census φ) (effects : List (Session.Effect WriteTag)) :
    c.Lawful k (effects.map Effect.session) := lawful_neutral (neutral_sessions effects) c

/-- What is known is in line with a bridge: the engine that runs is the only one, every other that
was returned has been shut down, and no number was given twice. Without an engine there are no
sessions. -/
structure Fits (c : Census φ) (a : Actor φ σ) : Prop where
  /-- Every attempt to set up an engine is known. -/
  workshop : c.workshop = a.workshop
  /-- The engine that runs is the only one. -/
  live : c.live = (a.engine.map (·.number)).toList
  /-- It was returned, and neither shut down nor refused. -/
  running : ∀ n ∈ c.live, n ∈ c.returned ∧ n ∉ c.closed ∧ n ∉ c.refused
  /-- Every other engine that was returned has been shut down. -/
  returned : ∀ n ∈ c.returned, n ∈ c.closed ∨ n ∈ c.live
  /-- No engine was shut down that was not returned. -/
  closed : ∀ n ∈ c.closed, n ∈ c.returned
  /-- The next number is new. -/
  numbers : ∀ n, n ∈ c.returned ∨ n ∈ c.refused → n < a.attempts
  /-- Without an engine there are no sessions. -/
  cleared : a.engine = none → a.table.entries = []
  /-- The two sides of the table are in line. -/
  indexed : a.table.Indexed

theorem fits_idle (workshop : φ) : (empty workshop).Fits (.idle workshop : Actor φ σ) where
  workshop := rfl
  live := rfl
  running _ h := absurd h List.not_mem_nil
  returned _ h := absurd h List.not_mem_nil
  closed _ h := absurd h List.not_mem_nil
  numbers _ h := h.elim (absurd · List.not_mem_nil) (absurd · List.not_mem_nil)
  cleared _ := rfl
  indexed := .empty

namespace Fits

variable {c : Census φ} {a b : Actor φ σ}

theorem live_eq (h : c.Fits a) {live : Live σ} (hengine : a.engine = some live) :
    c.live = [live.number] := by
  rw [h.live, hengine]
  rfl

theorem live_nil (h : c.Fits a) (hengine : a.engine = none) : c.live = [] := by
  rw [h.live, hengine]
  rfl

/-- Without an engine, every engine so far has been shut down. -/
theorem closed_of_returned (h : c.Fits a) (hengine : a.engine = none) :
    ∀ n ∈ c.returned, n ∈ c.closed := by
  intro n hn
  refine (h.returned n hn).resolve_right ?_
  rw [h.live_nil hengine]
  exact List.not_mem_nil

/-- A change that leaves engines alone. -/
theorem of_same (h : c.Fits a) (hworkshop : b.workshop = a.workshop)
    (hengine : b.engine.map (·.number) = a.engine.map (·.number))
    (hattempts : b.attempts = a.attempts) (hcleared : b.engine = none → b.table.entries = [])
    (hindexed : b.table.Indexed) : c.Fits b where
  workshop := hworkshop ▸ h.workshop
  live := hengine ▸ h.live
  running := h.running
  returned := h.returned
  closed := h.closed
  numbers := hattempts ▸ h.numbers
  cleared := hcleared
  indexed := hindexed

/-- What is known once the engine that runs was shut down. -/
theorem shut (h : c.Fits a) {live : Live σ} (hengine : a.engine = some live) (epoch : Nat) :
    Fits { c with live := [], closed := c.closed ++ [live.number] }
      ({ a.cleared with engine := none, epoch } : Actor φ σ) := by
  have hlive := h.live_eq hengine
  have hmem : live.number ∈ c.live := by
    rw [hlive]
    exact List.mem_singleton_self _
  have hreturned := (h.running live.number hmem).1
  refine ⟨h.workshop, rfl, fun n hn => absurd hn List.not_mem_nil, ?_, ?_, h.numbers,
    fun _ => a.table.entries_cancelAll, h.indexed.cancelAll (κ := WriteTag)⟩
  · intro n hn
    refine .inl (List.mem_append.mpr ?_)
    rcases h.returned n hn with hclosed | hn
    · exact .inl hclosed
    · rw [hlive] at hn
      exact .inr hn
  · intro n hn
    rcases List.mem_append.mp hn with hclosed | hn
    · exact h.closed n hclosed
    · rw [List.mem_singleton.mp hn]
      exact hreturned

/-- What is known once an attempt has returned an engine. -/
theorem started (h : c.Fits a) (hengine : a.engine = none) (workshop : φ) (state : σ)
    (interface : Option String) :
    Fits { c with
      workshop
      live := c.live ++ [a.attempts]
      returned := c.returned ++ [a.attempts] }
      { a.opened workshop with
        engine := some ⟨a.attempts, a.epoch + 1, state⟩
        traffic := .none
        table := a.table.withInterface interface } := by
  have hnil := h.live_nil hengine
  have hnew {n : Nat} (hn : n ∈ c.returned ∨ n ∈ c.refused) : n ≠ a.attempts :=
    Nat.ne_of_lt (h.numbers n hn)
  rw [hnil, List.nil_append]
  refine ⟨rfl, rfl, ?_, ?_, ?_, ?_, fun hnone => absurd hnone (Option.some_ne_none _),
    h.indexed.worked (κ := WriteTag) (.demand interface)⟩
  · intro n hn
    obtain rfl := List.mem_singleton.mp hn
    exact ⟨List.mem_append_right _ hn, fun hclosed => hnew (.inl (h.closed _ hclosed)) rfl,
      fun hrefused => hnew (.inr hrefused) rfl⟩
  · intro n hn
    rcases List.mem_append.mp hn with hold | hn
    · exact .inl (h.closed_of_returned hengine n hold)
    · exact .inr hn
  · exact fun n hn => List.mem_append_left _ (h.closed n hn)
  · intro n hn
    refine Nat.lt_succ_of_le ?_
    rcases hn with hn | hn
    · rcases List.mem_append.mp hn with hold | hn
      · exact Nat.le_of_lt (h.numbers n (.inl hold))
      · exact Nat.le_of_eq (List.mem_singleton.mp hn)
    · exact Nat.le_of_lt (h.numbers n (.inr hn))

/-- What is known once an attempt was refused. -/
theorem refused (h : c.Fits a) (hengine : a.engine = none) (workshop : φ) :
    Fits { c with workshop, refused := c.refused ++ [a.attempts] } (a.opened workshop) := by
  have hnil := h.live_nil hengine
  refine ⟨rfl, h.live, ?_, h.returned, h.closed, ?_, h.cleared, h.indexed⟩
  · intro n hn
    have hmem : n ∈ c.live := hn
    rw [hnil] at hmem
    exact absurd hmem List.not_mem_nil
  · intro n hn
    refine Nat.lt_succ_of_le ?_
    rcases hn with hn | hn
    · exact Nat.le_of_lt (h.numbers n (.inl hn))
    · rcases List.mem_append.mp hn with hold | hn
      · exact Nat.le_of_lt (h.numbers n (.inr hold))
      · exact Nat.le_of_eq (List.mem_singleton.mp hn)

/-- To shut down the engine that runs is in order, and then none runs. -/
theorem lawful_shutDown (h : c.Fits a) {live : Live σ} (hengine : a.engine = some live)
    (output : List Emission) : c.Lawful k (a.cancels ++ live.shutDown output) ∧
      (a.cancels ++ live.shutDown output).foldl (after k) c =
        { c with live := [], closed := c.closed ++ [live.number] } := by
  have hlive := h.live_eq hengine
  have hmem : live.number ∈ c.live := by
    rw [hlive]
    exact List.mem_singleton_self _
  obtain ⟨hreturned, hopen, -⟩ := h.running live.number hmem
  have hshut : c.after k (.engine live.number .shutdown) =
      { c with live := [], closed := c.closed ++ [live.number] } := by
    simp [after, hlive]
  constructor
  · rw [Actor.cancels, Live.shutDown, lawful_append, foldl_sessions, List.cons_append, Lawful,
      lawful_append]
    exact ⟨lawful_sessions .., ⟨hlive, hreturned, hopen⟩, lawful_posts .., trivial, trivial⟩
  · rw [Actor.cancels, Live.shutDown, List.foldl_append, foldl_sessions, List.cons_append,
      List.foldl_cons, List.foldl_append, foldl_posts, hshut]
    rfl

/-- To try to set up an engine where none runs is in order. -/
theorem lawful_attempted (h : c.Fits a) (hengine : a.engine = none) (params : EngineParams)
    (output : List Emission) : c.Lawful k (a.attempted params output) ∧
      (a.attempted params output).foldl (after k) c = c.attempt k a.attempts params := by
  constructor
  · refine ⟨⟨h.live_nil hengine, fun hn => ?_, h.closed_of_returned hengine⟩, lawful_posts ..⟩
    exact absurd (h.numbers _ (.inl hn)) (Nat.lt_irrefl _)
  · rw [Actor.attempted, List.foldl_cons, foldl_posts]
    rfl

/-- To call the engine that runs is in order, and tells nothing new. -/
theorem lawful_called (h : c.Fits a) {live : Live σ} (hengine : a.engine = some live)
    {call : EngineCall} (huse : call.Use) (output : List Emission) :
    c.Lawful k (.engine live.number call :: Actor.posts live.epoch output) ∧
      (.engine live.number call :: Actor.posts live.epoch output : List Effect).foldl (after k) c =
        c := by
  have hlive := h.live_eq hengine
  rw [Lawful, List.foldl_cons, foldl_posts]
  cases call with
  | init | shutdown | drop => exact huse.elim
  | host | tunnel | tick => exact ⟨⟨hlive, lawful_posts ..⟩, rfl⟩

/-- A move is in order, and what is known stays in line with the bridge. -/
theorem move (h : c.Fits a) {effects : List Effect} {broken : Bool}
    (hmove : a.Move k effects broken b) :
    c.Lawful k effects ∧ (broken = false → (effects.foldl (after k) c).Fits b) := by
  have hsession (effects : List (Session.Effect WriteTag)) {table : Session.Table} {live : Live σ}
      (hengine : a.engine = some live) (hindexed : table.Indexed) :
      c.Lawful k (effects.map .session) ∧ (false = false →
        ((effects.map Effect.session).foldl (after k) c).Fits { a with table }) := by
    refine ⟨lawful_sessions .., fun _ => ?_⟩
    rw [foldl_sessions]
    exact h.of_same rfl rfl rfl
      (fun hnone => absurd (hengine.symm.trans hnone) (Option.some_ne_none _)) hindexed
  -- The attempt is made over again from the workshop that the bridge had.
  have hattempt (params : EngineParams) : k.init c.workshop params = k.init a.workshop params := by
    rw [h.workshop]
  cases hmove with
  | plain effects traffic hplain =>
    have hneutral : ∀ x ∈ effects, x.Neutral := fun x hx => (hplain x hx).neutral
    refine ⟨lawful_neutral hneutral c, fun _ => ?_⟩
    rw [foldl_neutral hneutral]
    exact h.of_same rfl rfl rfl h.cleared h.indexed
  | cleared hengine =>
    refine ⟨lawful_sessions .., fun _ => ?_⟩
    rw [Actor.cancels, foldl_sessions]
    exact h.of_same rfl rfl rfl (fun _ => a.table.entries_cancelAll) h.indexed.cancelAll
  | closed live output hengine =>
    obtain ⟨hlawful, hafter⟩ := h.lawful_shutDown hengine output
    refine ⟨hlawful, fun _ => ?_⟩
    rw [hafter]
    exact h.shut hengine _
  | closeBroken live output hengine =>
    exact ⟨(h.lawful_shutDown hengine output).1, nofun⟩
  | unfit cause hengine => exact ⟨⟨h.live_nil hengine, trivial⟩, fun _ => h⟩
  | started workshop params output state interface hengine hinit =>
    obtain ⟨hlawful, hafter⟩ := h.lawful_attempted hengine params output
    rw [attempt, hattempt, hinit] at hafter
    constructor
    · rw [lawful_append, hafter]
      exact ⟨hlawful, trivial, List.append_ne_nil_of_right_ne_nil _ (List.cons_ne_nil _ _), trivial⟩
    · intro _
      rw [List.foldl_append, hafter]
      exact h.started hengine workshop state interface
  | refused workshop params output hengine hinit =>
    obtain ⟨hlawful, hafter⟩ := h.lawful_attempted hengine params output
    rw [attempt, hattempt, hinit] at hafter
    constructor
    · rw [lawful_append, hafter]
      exact ⟨hlawful, h.live_nil hengine, trivial⟩
    · intro _
      rw [List.foldl_append, hafter]
      exact h.refused hengine workshop
  | initBroken workshop params output hengine =>
    exact ⟨(h.lawful_attempted hengine params output).1, nofun⟩
  | called live call output state hengine huse =>
    obtain ⟨hlawful, hafter⟩ := h.lawful_called hengine huse output
    refine ⟨hlawful, fun _ => ?_⟩
    rw [hafter]
    exact h.of_same rfl (by rw [hengine]; rfl) rfl
      (fun hnone => absurd hnone (Option.some_ne_none _)) h.indexed
  | callBroken live call output hengine huse =>
    obtain ⟨hlawful, -⟩ := h.lawful_called hengine huse output
    exact ⟨lawful_append.mpr ⟨hlawful, trivial, trivial⟩, nofun⟩
  | sent live endpoint datagram tag hengine =>
    exact hsession _ hengine (h.indexed.worked (.send endpoint datagram tag))
  | notified live n hengine =>
    exact hsession _ hengine (h.indexed.worked (κ := WriteTag) (.notify n))

end Fits

end Census

end PacketTunnel.Bridge
