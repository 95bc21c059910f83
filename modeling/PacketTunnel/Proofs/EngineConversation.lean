import Mathlib.Data.List.Pairwise
import PacketTunnel.Proofs.EngineDialogue

/-!
# The conversation with an engine

From its attempt on, an engine is told what is handed to it while it runs, in order and until it
breaks, and what it puts out is what an engine of its kind answers to that. So a conversation can be
replayed from what was handed over: the attempts are told apart by their numbers as well as by their
epochs, and nobody else is called under the number or posts in the epoch.
-/

namespace PacketTunnel.Bridge

variable {φ σ : Type}

/-- What was worked on while the engine of a number ran. -/
def lifeOf (number : Nat) (record : List (Worked φ σ)) : List (Worked φ σ) :=
  record.filter fun w => w.before.actor.engine.map (·.number) = some number

/-- What was handed to the engine of a number. -/
def handedTo (number : Nat) (record : List (Worked φ σ)) : List EngineCall :=
  (lifeOf number record).flatMap fun w => w.before.actor.calls w.message

theorem lifeOf_append (number : Nat) (record more : List (Worked φ σ)) :
    lifeOf number (record ++ more) = lifeOf number record ++ lifeOf number more :=
  List.filter_append ..

theorem lifeOf_singleton (number : Nat) (w : Worked φ σ) : lifeOf number [w] =
    if w.before.actor.engine.map (·.number) = some number then [w] else [] := by
  simp [lifeOf, List.filter_cons]

theorem handedTo_snoc (number : Nat) (record : List (Worked φ σ)) (w : Worked φ σ) :
    handedTo number (record ++ [w]) = handedTo number record ++
      if w.before.actor.engine.map (·.number) = some number then
        w.before.actor.calls w.message else [] := by
  rw [handedTo, lifeOf_append, List.flatMap_append, lifeOf_singleton]
  split <;> simp [handedTo]

/-- How it went with the engine of an attempt that was to be handed calls, and what it left. -/
inductive Conversed (k : Kind φ σ) (number epoch : Nat) (params : EngineParams)
    (done : List Effect) (handed : List EngineCall) : Option σ → Prop where
  /-- The engine was set up. It was told what was handed to it, and has put out what it answers. -/
  | ran {workshop next : φ} {output : List Emission} {s : σ}
    (init : k.init workshop params = (next, output, .running s))
    (told : callsOn number done = (k.talk handed s).1.map Prod.fst)
    (answered : posted epoch done = output ++ (k.talk handed s).1.flatMap Prod.snd) :
    Conversed k number epoch params done handed (k.talk handed s).2
  /-- The attempt came to nothing. It may have put something out. -/
  | failed {workshop next : φ} {output : List Emission} {setup : Setup σ}
    (init : k.init workshop params = (next, output, setup)) (setup_ne : ∀ s, setup ≠ .running s)
    (handed_eq : handed = []) (told : callsOn number done = [])
    (answered : posted epoch done = output) : Conversed k number epoch params done handed none

/-- What else is done does not matter to the engine of an attempt. -/
theorem Conversed.append {k : Kind φ σ} {number epoch : Nat} {params : EngineParams}
    {done effects : List Effect} {handed : List EngineCall} {left : Option σ}
    (h : Conversed k number epoch params done handed left)
    (htold : callsOn number effects = []) (hanswered : posted epoch effects = []) :
    Conversed k number epoch params (done ++ effects) handed left := by
  cases h with
  | ran init told answered =>
    refine .ran init ?_ ?_
    · rw [callsOn_append, told, htold, List.append_nil]
    · rw [posted_append, answered, hanswered, List.append_nil]
  | failed init setup_ne handed_eq told answered =>
    refine .failed init setup_ne handed_eq ?_ ?_
    · rw [callsOn_append, told, htold, List.append_nil]
    · rw [posted_append, answered, hanswered, List.append_nil]

/-- How things stand with all attempts that were made. -/
structure Conversation (k : Kind φ σ) (done : List Effect) (handed : Nat → List EngineCall)
    (a : Actor φ σ) : Prop where
  /-- Numbers and epochs grow from one attempt to the next. -/
  increasing : (openings done).Pairwise fun p q => p.1 < q.1 ∧ p.2 < q.2
  /-- The next ones are new. -/
  bounded : ∀ p ∈ openings done, p.1 < a.attempts ∧ p.2 ≤ a.epoch
  /-- The engine that runs is one of them, and its epoch is the current one. -/
  live : ∀ live, a.engine = some live →
    (live.number, live.epoch) ∈ openings done ∧ live.epoch = a.epoch
  /-- Nothing was said under the numbers that are left. -/
  unused : ∀ n, a.attempts ≤ n → callsOn n done = [] ∧ handed n = []
  /-- Nothing was put out in the epochs to come. -/
  unheard : ∀ e, a.epoch < e → posted e done = []
  /-- How it went with each attempt; the engine that runs is what is left of its own. -/
  went : ∀ n e params, .engine n (.init e params) ∈ done →
    ∃ left, Conversed k n e params done (handed n) left ∧
      ∀ live, a.engine = some live → live.number = n → left = some live.state

namespace Actor

/-- Whether a turn makes no attempt to set up an engine, and opens no epoch for the one that
runs. -/
structure Stays (a b : Actor φ σ) : Prop where
  /-- No number is given. -/
  attempts : b.attempts = a.attempts
  /-- Epochs do not come back. -/
  epoch_le : a.epoch ≤ b.epoch
  /-- An engine that runs keeps its epoch. -/
  epoch_eq : b.engine ≠ none → b.epoch = a.epoch

theorem stays_refl (a : Actor φ σ) : a.Stays a := ⟨rfl, Nat.le_refl _, fun _ => rfl⟩

theorem stays_talked (a : Actor φ σ) (live : Live σ) (t : Talk × Option σ) :
    a.Stays (a.talked live t).actor := by
  obtain ⟨said, state | -⟩ := t <;> exact ⟨rfl, Nat.le_refl _, fun _ => rfl⟩

theorem stays_stop (k : Kind φ σ) (a : Actor φ σ) : a.Stays (a.stop k).actor := by
  have hnone : (a.stop k).actor.engine = none := engine_stop k a
  rcases hengine : a.engine with _ | live
  · rw [stop_idle k hengine]
    exact ⟨rfl, Nat.le_refl _, fun _ => rfl⟩
  · obtain ⟨output, -, ⟨-, hactor⟩ | ⟨-, hactor⟩⟩ := stop_live k hengine
    · rw [hactor]
      exact ⟨rfl, Nat.le_succ _, fun h => absurd rfl h⟩
    · rw [hactor]
      exact ⟨rfl, Nat.le_refl _, fun _ => rfl⟩

/-- A turn that is not a start makes no attempt. -/
theorem Turned.stays {k : Kind φ σ} {a : Actor φ σ} {m : Message} {t : Turn φ σ}
    (h : a.Turned k m t) (hm : ∀ config, m ≠ .command (.start config)) : a.Stays t.actor := by
  cases h with
  | started config => exact absurd rfl (hm config)
  | ignored | told | wrote | sent | counted => exact ⟨rfl, Nat.le_refl _, fun _ => rfl⟩
  | stopped => exact stays_stop k a
  | @fed live hengine packets =>
    have htalked := stays_talked a live (k.talk (packets.map .host) live.state)
    rw [Turn.andThen]
    split
    · exact htalked
    · exact htalked
  | @heard live hengine n =>
    have htalked := stays_talked (a.hearing k live n) live
      (k.talk ((a.brought n).map .tunnel) live.state)
    exact ⟨htalked.attempts, htalked.epoch_le, htalked.epoch_eq⟩
  | @ticked live hengine => exact stays_talked a live _

end Actor

namespace Conversation

variable {k : Kind φ σ} {done effects : List Effect} {handed : Nat → List EngineCall}
  {a b : Actor φ σ} {p q : Nat × Nat} {live : Live σ} {calls : List EngineCall} {t : Turn φ σ}

theorem idle (k : Kind φ σ) (workshop : φ) :
    Conversation k [] (fun _ => []) (.idle workshop) := by
  constructor <;> simp [openings, callsOn, posted, Actor.idle]

/-- An attempt is known by its number as well as by its epoch. -/
theorem fst_eq_iff (h : Conversation k done handed a) (hp : p ∈ openings done)
    (hq : q ∈ openings done) : p.1 = q.1 ↔ p.2 = q.2 := by
  have hsymm : Std.Symm fun p q : Nat × Nat => p.1 ≠ q.1 ∧ p.2 ≠ q.2 :=
    ⟨fun _ _ hne => ⟨hne.1.symm, hne.2.symm⟩⟩
  have hapart : (openings done).Pairwise fun p q => p.1 ≠ q.1 ∧ p.2 ≠ q.2 :=
    h.increasing.imp fun hlt => ⟨Nat.ne_of_lt hlt.1, Nat.ne_of_lt hlt.2⟩
  by_cases hsame : p = q
  · simp [hsame]
  · have hne := hapart.forall hp hq hsame
    simp [hne.1, hne.2]

/-- An attempt has the number of the engine that runs just if it has its epoch. -/
theorem number_eq_iff (h : Conversation k done handed a) (hlive : a.engine = some live) {n e : Nat}
    {params : EngineParams} (hmem : .engine n (.init e params) ∈ done) :
    live.number = n ↔ live.epoch = e :=
  h.fst_eq_iff (h.live live hlive).1 (mem_openings.mpr ⟨params, hmem⟩)

/-- The engine that runs talks, and the others are silent. -/
theorem speak (h : Conversation k done handed a) (hlive : a.engine = some live)
    (hspeaks : Actor.Speaks k live calls t) (hstays : a.Stays t.actor) :
    Conversation k (done ++ t.effects)
      (fun n => handed n ++ if live.number = n then calls else []) t.actor := by
  obtain ⟨hmine, hepoch⟩ := h.live live hlive
  have hopenings : openings (done ++ t.effects) = openings done := by
    rw [openings_append, hspeaks.opened, List.append_nil]
  refine ⟨?_, ?_, ?_, ?_, ?_, ?_⟩
  · rw [hopenings]
    exact h.increasing
  · intro p hp
    rw [hopenings] at hp
    have hbounded := h.bounded p hp
    have hattempts := hstays.attempts
    have hle := hstays.epoch_le
    omega
  · intro next hnext
    obtain ⟨state, -, rfl⟩ := hspeaks.engine next hnext
    have hsame := hstays.epoch_eq (by simp [hnext])
    rw [hopenings, hsame]
    exact ⟨hmine, hepoch⟩
  · intro n hn
    rw [hstays.attempts] at hn
    have hne : live.number ≠ n := Nat.ne_of_lt (Nat.lt_of_lt_of_le (h.bounded _ hmine).1 hn)
    obtain ⟨hcalls, hhanded⟩ := h.unused n hn
    simp [callsOn_append, hspeaks.told, hcalls, hhanded, hne]
  · intro e he
    have hlt : a.epoch < e := Nat.lt_of_le_of_lt hstays.epoch_le he
    have hne : live.epoch ≠ e := by omega
    rw [posted_append, h.unheard e hlt, hspeaks.answered, if_neg hne]
    rfl
  · intro n e params hmem
    have hold : .engine n (.init e params) ∈ done := by
      obtain ⟨p, hp⟩ := mem_openings.mp (hopenings ▸ mem_openings.mpr ⟨params, hmem⟩)
      rcases List.mem_append.mp hmem with hold | hnew
      · exact hold
      · have hnone := mem_openings.mpr ⟨params, hnew⟩
        simp [hspeaks.opened] at hnone
    obtain ⟨left, hwent, hleft⟩ := h.went n e params hold
    have hiff := h.number_eq_iff hlive hold
    by_cases hn : live.number = n
    · -- what is left of the attempt is the engine that runs, which goes on talking where it was
      have he := hiff.mp hn
      obtain rfl := hleft live hlive hn
      generalize hsome : some live.state = left at hwent
      cases hwent with
      | failed => cases hsome
      | @ran workshop next output s init told answered =>
        have htalk := k.talk_append (handed n) calls hsome.symm
        refine ⟨_, .ran init ?_ ?_, ?_⟩
        · rw [callsOn_append, told, hspeaks.told, if_pos hn, if_pos hn, htalk, List.map_append]
        · rw [posted_append, answered, hspeaks.answered, if_pos he, if_pos hn, htalk,
            List.flatMap_append, List.append_assoc]
        · intro now hnow _
          obtain ⟨state, hstate, rfl⟩ := hspeaks.engine now hnow
          rw [if_pos hn, htalk]
          exact hstate
    · have he : live.epoch ≠ e := fun he => hn (hiff.mpr he)
      rw [if_neg hn, List.append_nil]
      refine ⟨left, hwent.append ?_ ?_, fun now hnow hnumber => ?_⟩
      · rw [hspeaks.told, if_neg hn]
      · rw [hspeaks.answered, if_neg he]
      · obtain ⟨state, -, rfl⟩ := hspeaks.engine now hnow
        exact absurd hnumber hn

/-- Where nothing is said and no engine runs, all stays as it was. -/
theorem silence (h : Conversation k done handed a) (hstays : a.Stays b) (hnone : b.engine = none)
    (htold : ∀ n, callsOn n effects = []) (hanswered : ∀ e, posted e effects = [])
    (hopened : openings effects = []) : Conversation k (done ++ effects) handed b := by
  have hopenings : openings (done ++ effects) = openings done := by
    rw [openings_append, hopened, List.append_nil]
  refine ⟨?_, ?_, ?_, ?_, ?_, ?_⟩
  · rw [hopenings]
    exact h.increasing
  · intro p hp
    rw [hopenings] at hp
    have hbounded := h.bounded p hp
    have hattempts := hstays.attempts
    have hle := hstays.epoch_le
    omega
  · simp [hnone]
  · intro n hn
    rw [hstays.attempts] at hn
    obtain ⟨hcalls, hhanded⟩ := h.unused n hn
    simp [callsOn_append, htold, hcalls, hhanded]
  · intro e he
    have hlt : a.epoch < e := Nat.lt_of_le_of_lt hstays.epoch_le he
    rw [posted_append, h.unheard e hlt, hanswered, List.append_nil]
  · intro n e params hmem
    have hold : .engine n (.init e params) ∈ done := by
      rcases List.mem_append.mp hmem with hold | hnew
      · exact hold
      · have hnone := mem_openings.mpr ⟨params, hnew⟩
        simp [hopened] at hnone
    obtain ⟨left, hwent, -⟩ := h.went n e params hold
    exact ⟨left, hwent.append (htold n) (hanswered e), by simp [hnone]⟩

/-- An attempt to set up another engine has a number and an epoch that are new. -/
theorem attempt (h : Conversation k done handed a)
    {params : EngineParams} {next : φ} {output : List Emission} {setup : Setup σ}
    (hinit : k.init a.workshop params = (next, output, setup)) {rest : List Effect}
    (hmute : ∀ x ∈ rest, x.Mute) (hattempts : b.attempts = a.attempts + 1)
    (hepoch : b.epoch = a.epoch + 1) (hengine : ∀ live, b.engine = some live →
      setup = .running live.state ∧ live.number = a.attempts ∧ live.epoch = a.epoch + 1) :
    Conversation k (done ++ (a.attempted params output ++ rest)) handed b := by
  have htold (n : Nat) : callsOn n (a.attempted params output ++ rest) = [] := by
    rw [callsOn_append, callsOn_mute hmute, List.append_nil]
    exact callsOn_posts n (a.epoch + 1) output
  have hanswered (e : Nat) : posted e (a.attempted params output ++ rest) =
      if a.epoch + 1 = e then output else [] := by
    rw [posted_append, posted_mute hmute, List.append_nil]
    exact posted_posts (a.epoch + 1) output e
  have hopened : openings (a.attempted params output ++ rest) = [(a.attempts, a.epoch + 1)] := by
    have hposts := openings_posts (a.epoch + 1) output
    rw [openings_append, openings_mute hmute, List.append_nil]
    exact congrArg ((a.attempts, a.epoch + 1) :: ·) hposts
  refine ⟨?_, ?_, ?_, ?_, ?_, ?_⟩
  · rw [openings_append, hopened, List.pairwise_append]
    refine ⟨h.increasing, List.pairwise_singleton _ _, fun p hp q hq => ?_⟩
    obtain rfl := List.mem_singleton.mp hq
    have hbounded := h.bounded p hp
    dsimp only
    omega
  · intro p hp
    rw [openings_append, hopened, List.mem_append, List.mem_singleton] at hp
    rcases hp with hp | rfl
    · have hbounded := h.bounded p hp
      omega
    · dsimp only
      omega
  · intro live hlive
    obtain ⟨-, hnumber, hopen⟩ := hengine live hlive
    rw [openings_append, hopened, hnumber, hopen, hepoch]
    exact ⟨List.mem_append_right _ List.mem_cons_self, rfl⟩
  · intro n hn
    obtain ⟨hcalls, hhanded⟩ := h.unused n (by omega)
    rw [callsOn_append, htold, hcalls]
    exact ⟨rfl, hhanded⟩
  · intro e he
    have hne : a.epoch + 1 ≠ e := by omega
    rw [posted_append, hanswered, h.unheard e (by omega), if_neg hne]
    rfl
  · intro n e found hmem
    rcases List.mem_append.mp hmem with hold | hnew
    · have hbounded := h.bounded _ (mem_openings.mpr ⟨found, hold⟩)
      have hother : a.epoch + 1 ≠ e := by omega
      obtain ⟨left, hwent, -⟩ := h.went n e found hold
      refine ⟨left, hwent.append (htold n) (by rw [hanswered, if_neg hother]), ?_⟩
      intro live hlive hnumber
      obtain ⟨-, hnew, -⟩ := hengine live hlive
      omega
    · obtain ⟨⟨rfl, rfl⟩, rfl⟩ : (n = a.attempts ∧ e = a.epoch + 1) ∧ found = params := by
        rcases List.mem_append.mp hnew with hnew | hrest
        · rcases List.mem_cons.mp hnew with heq | hpost
          · simpa [and_assoc] using heq
          · simp [Actor.posts] at hpost
        · exact (hmute _ hrest).elim
      obtain ⟨hcalls, hhanded⟩ := h.unused a.attempts (Nat.le_refl _)
      have hnew : posted (a.epoch + 1) done = [] := h.unheard _ (Nat.lt_succ_self _)
      have hsaid : callsOn a.attempts (done ++ (a.attempted found output ++ rest)) = [] := by
        rw [callsOn_append, hcalls, htold, List.append_nil]
      have hput : posted (a.epoch + 1) (done ++ (a.attempted found output ++ rest)) = output := by
        rw [posted_append, hnew, hanswered, if_pos rfl, List.nil_append]
      rw [hhanded]
      cases setup with
      | running s =>
        refine ⟨_, .ran hinit (by simp [hsaid]) (by simp [hput]), fun live hlive _ => ?_⟩
        obtain ⟨hstate, -⟩ := hengine live hlive
        rw [Setup.running.inj hstate]
        rfl
      | refused =>
        refine ⟨none, .failed hinit (fun _ heq => by cases heq) rfl hsaid hput, fun live hlive _ => ?_⟩
        cases (hengine live hlive).1
      | broken =>
        refine ⟨none, .failed hinit (fun _ heq => by cases heq) rfl hsaid hput, fun live hlive _ => ?_⟩
        cases (hengine live hlive).1

/-- The attempt that a start comes to. -/
theorem setUp (h : Conversation k done handed a) (hnone : a.engine = none) {config : Config}
    (hsetUp : Actor.SetUp k config a t) : Conversation k (done ++ t.effects) handed t.actor := by
  cases hsetUp with
  | unfit hparams =>
    exact h.silence (Actor.stays_refl a) hnone (fun n => rfl) (fun e => rfl) rfl
  | @broken params workshop output hparams hinit =>
    have hopened : Conversation k (done ++ (a.attempted params output ++ [])) handed
        (a.opened workshop) :=
      h.attempt hinit (fun _ hmem => absurd hmem List.not_mem_nil) rfl rfl
        fun live hlive => absurd (hlive.symm.trans hnone) (Option.some_ne_none _)
    rwa [List.append_nil] at hopened
  | refused hparams hinit =>
    refine h.attempt hinit (Actor.mute_singleton trivial) rfl rfl ?_
    exact fun live hlive => absurd (hlive.symm.trans hnone) (Option.some_ne_none _)
  | running hparams hinit =>
    refine h.attempt hinit (List.forall_mem_cons.mpr ⟨trivial, Actor.mute_singleton trivial⟩)
      rfl rfl fun live hlive => ?_
    obtain rfl := Option.some.inj hlive
    exact ⟨rfl, rfl, rfl⟩

/-- To stop is to tell the engine that runs to shut down. -/
theorem stop (h : Conversation k done handed a) : Conversation k (done ++ (a.stop k).effects)
    (fun n => handed n ++ if a.engine.map (·.number) = some n then [.shutdown] else [])
    (a.stop k).actor := by
  have hstays := Actor.stays_stop k a
  rcases hengine : a.engine with _ | live
  · have hnone : (a.stop k).actor.engine = none := Actor.engine_stop k a
    rw [Actor.stop_idle k hengine] at hstays hnone ⊢
    have hmute := Actor.mute_cancels a
    simpa [Turn.done] using
      h.silence hstays hnone (callsOn_mute hmute) (posted_mute hmute) (openings_mute hmute)
  · simpa using h.speak hengine (Actor.speaks_stop k hengine) hstays

/-- A turn carries the conversations on. -/
theorem turn {l : Loop φ σ} (h : Conversation k done handed l.actor) (m : Message) :
    Conversation k (done ++ (l.turn k m).effects)
      (fun n => handed n ++ if l.actor.engine.map (·.number) = some n then l.actor.calls m else [])
      (l.turn k m).actor := by
  rcases m.start_or with ⟨config, rfl⟩ | hm
  · have hturn : l.turn k (.command (.start config)) = l.actor.start k config := rfl
    rw [hturn]
    rcases l.actor.start_cases k config with ⟨-, hstart⟩ | ⟨-, t, hsetUp, hstart⟩
    · rw [hstart]
      exact h.stop
    · rw [hstart, ← List.append_assoc]
      exact h.stop.setUp (Actor.engine_stop k l.actor) hsetUp
  · have hturned := Actor.turned_turn k l m
    have hstays := hturned.stays hm
    rcases hengine : l.actor.engine with _ | live
    · have hsilent := hturned.silent hengine hm
      simpa using h.silence hstays hsilent.engine hsilent.told hsilent.answered hsilent.opened
    · simpa using h.speak hengine (hturned.speaks hengine hm) hstays

/-- To give up the engine that runs says nothing. -/
theorem drop (h : Conversation k done handed a) :
    Conversation k (done ++ Loop.dropEngine a) handed { a with engine := none } := by
  have hmute : ∀ x ∈ Loop.dropEngine a, x.Mute := by
    rw [Loop.dropEngine]
    split
    · exact fun _ hmem => absurd hmem List.not_mem_nil
    · exact Actor.mute_singleton trivial
  have hstays : a.Stays { a with engine := none } := ⟨rfl, Nat.le_refl _, fun hne => absurd rfl hne⟩
  exact h.silence hstays rfl (callsOn_mute hmute) (posted_mute hmute) (openings_mute hmute)

end Conversation

namespace Loop

variable {k : Kind φ σ} {workshop : φ} {period : Nat} {record : List (Worked φ σ)}
  {last : Option (Loop φ σ)}

/-- In every run the engines are told what is handed to them, and put out what they answer. -/
theorem Run.conversation (h : Run k (fresh workshop period) record last) :
    ∃ a, Conversation k (effectsOf record) (handedTo · record) a ∧ ∀ l, last = some l →
      a = l.actor := by
  induction h with
  | nil =>
    refine ⟨_, .idle k workshop, fun l hl => ?_⟩
    obtain rfl := Option.some.inj hl
    rfl
  | @snoc record l h now m ih =>
    obtain ⟨_, hbefore, hactor⟩ := ih
    obtain rfl := hactor l rfl
    have hturn := hbefore.turn m
    have hhanded : (handedTo · (record ++ [l.worked k now m])) = fun n => handedTo n record ++
        if l.actor.engine.map (·.number) = some n then l.actor.calls m else [] :=
      funext fun n => handedTo_snoc n record _
    rw [hhanded, effectsOf_append, effectsOf_singleton]
    rcases work_cases k l now m with ⟨next, hwork, -, hnext, -⟩ | ⟨hwork, -⟩ | hwork
    · refine ⟨(l.turn k m).actor, ?_, fun found hfound => ?_⟩
      · simpa only [worked, hwork] using hturn
      · simp only [worked, hwork, Option.some.injEq] at hfound
        rw [← hfound, hnext]
    · refine ⟨(l.turn k m).actor, ?_, fun found hfound => ?_⟩
      · simpa only [worked, hwork] using hturn
      · simp [worked, hwork] at hfound
    · refine ⟨{ (l.turn k m).actor with engine := none }, ?_, fun found hfound => ?_⟩
      · simpa only [worked, hwork, List.append_assoc] using hturn.drop
      · simp [worked, hwork] at hfound

/-- The engine that runs is told all that is handed to it, unless it breaks. -/
theorem told_turn (k : Kind φ σ) (l : Loop φ σ) {m : Message} (h : (l.turn k m).broken = false)
    (n : Nat) : callsOn n (l.turn k m).effects =
      if l.actor.engine.map (·.number) = some n then l.actor.calls m else [] := by
  have hspoken {live : Live σ} {calls : List EngineCall} {t : Turn φ σ}
      (hlive : l.actor.engine = some live) (hspeaks : Actor.Speaks k live calls t)
      (hgoes : t.broken = false) : callsOn n t.effects =
        if l.actor.engine.map (·.number) = some n then calls else [] := by
    have hlasts : (k.talk calls live.state).2 ≠ none := by
      have hbroken := hspeaks.broken
      simpa [hgoes, Option.isSome_iff_ne_none] using hbroken.symm
    simp [hspeaks.told, (k.talk_calls calls live.state).2 hlasts, hlive]
  rcases m.start_or with ⟨config, rfl⟩ | hm
  · have hturn : l.turn k (.command (.start config)) = l.actor.start k config := rfl
    rw [hturn] at h ⊢
    rcases l.actor.start_cases k config with ⟨hbroken, hstart⟩ | ⟨hgoes, t, hsetUp, hstart⟩
    · rw [hstart, hbroken] at h
      exact absurd h.symm Bool.false_ne_true
    · have hnone : callsOn n t.effects = [] := by
        cases hsetUp with
        | unfit => rfl
        | broken => exact callsOn_posts n _ _
        | refused | running =>
          rw [Turn.done, callsOn_append, Actor.attempted]
          exact List.append_eq_nil_iff.mpr ⟨callsOn_posts n _ _, rfl⟩
      rw [hstart, callsOn_append, hnone, List.append_nil]
      rcases hengine : l.actor.engine with _ | live
      · rw [Actor.stop_idle k hengine]
        simpa [Turn.done] using callsOn_mute (Actor.mute_cancels l.actor) n
      · rw [← hengine]
        exact hspoken hengine (Actor.speaks_stop k hengine) hgoes
  · have hturned := Actor.turned_turn k l m
    rcases hengine : l.actor.engine with _ | live
    · simp [(hturned.silent hengine hm).told]
    · rw [← hengine]
      exact hspoken hengine (hturned.speaks hengine hm) h

/-- A bridge that goes on has handed to its engines all that was to be handed to them. -/
theorem Run.told {l : Loop φ σ} (h : Run k (fresh workshop period) record (some l)) (n : Nat) :
    callsOn n (effectsOf record) = handedTo n record := by
  generalize hlast : some l = last at h
  induction h generalizing l with
  | nil => rfl
  | @snoc record found h now m ih =>
    have hgoes := (actor_of_after hlast.symm).2
    have hworked : callsOn n (found.worked k now m).effects = callsOn n (found.turn k m).effects :=
      filterMap_worked (fun _ => rfl) k found now m
    rw [effectsOf_append, effectsOf_singleton, callsOn_append, ih rfl, hworked,
      told_turn k found hgoes, handedTo_snoc]
    rfl

end Loop

end PacketTunnel.Bridge
