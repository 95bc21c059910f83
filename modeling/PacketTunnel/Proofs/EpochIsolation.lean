import Mathlib.Logic.Relation
import PacketTunnel.Proofs.SessionOrigin
import PacketTunnel.Scripted.Engine

/-!
# Isolation of epochs

An epoch ends for good: once its engine was shut down, or the attempt to set it up was refused, it
never is the current one again. And what belongs to an earlier engine is without effect: messages of
another epoch and reports about sessions of another engine may come or not, everything that is done
stays the same.
-/

namespace PacketTunnel.Bridge

open Session

variable {φ σ : Type}

/-- Whether an effect is the attempt of a number to set up an engine, in an epoch. -/
def Effect.Opens (number epoch : Nat) : Effect → Prop
  | .engine attempt (.init opened _) => attempt = number ∧ opened = epoch
  | _ => False

theorem Effect.Opens.not_routine {number epoch : Nat} {x : Effect} (h : x.Opens number epoch) :
    ¬x.Routine := by
  cases x with
  | engine attempt call =>
    cases call with
    | init => exact not_false
    | host | tunnel | tick | shutdown | drop => exact h.elim
  | post | readHost | writeHost | session | started | traffic | sessions => exact h.elim

variable {k : Kind φ σ} {workshop : φ}

/-- Whether the engine of an epoch was shut down, or the attempt to set it up was refused. -/
def Over (k : Kind φ σ) (workshop : φ) (done : List Effect) (epoch : Nat) : Prop :=
  ∃ x ∈ done, ∃ number, x.Opens number epoch ∧
    (number ∈ (Census.of k workshop done).closed ∨ number ∈ (Census.of k workshop done).refused)

/-- What is over stays so. -/
theorem Over.append {done : List Effect} {epoch : Nat} (h : Over k workshop done epoch)
    (more : List Effect) : Over k workshop (done ++ more) epoch := by
  obtain ⟨x, hx, number, hopens, hover⟩ := h
  obtain ⟨-, hrefused, hclosed⟩ := Census.subset_foldl k (Census.of k workshop done) more
  rw [← Census.of_append] at hrefused hclosed
  exact ⟨x, List.mem_append_left _ hx, number, hopens, hover.imp (hclosed ·) (hrefused ·)⟩

/-- An attempt to set up an engine has the next number and opens an epoch. -/
theorem Actor.Move.of_opens {a b : Actor φ σ} {effects : List Effect} {broken : Bool} {x : Effect}
    {number epoch : Nat} (h : a.Move k effects broken b) (hmem : x ∈ effects)
    (hx : x.Opens number epoch) :
    number = a.attempts ∧ epoch = b.epoch ∧ b.epoch = a.epoch + 1 := by
  rcases h.effect_cases hmem with hroutine | ⟨⟨params, rfl⟩, hepoch⟩ |
    ⟨⟨generation, target, interface, rfl⟩, -⟩
  · exact absurd hroutine hx.not_routine
  · exact ⟨hx.1.symm, hx.2.symm.trans hepoch.symm, hepoch⟩
  · exact hx.elim

/-- No epoch is opened twice, and the engine that runs is the one that the current epoch was opened
for. -/
structure Epochs (done : List Effect) (a : Actor φ σ) : Prop where
  /-- The current epoch is the last one. -/
  opened : ∀ x ∈ done, ∀ number epoch, x.Opens number epoch → epoch ≤ a.epoch
  /-- It belongs to the engine that runs. -/
  current : ∀ live, a.engine = some live → live.epoch = a.epoch ∧
    ∀ x ∈ done, ∀ number, x.Opens number a.epoch → number = live.number

theorem epochs_idle (workshop : φ) : Epochs [] (.idle workshop : Actor φ σ) where
  opened _ h := absurd h List.not_mem_nil
  current _ h := absurd h.symm (Option.some_ne_none _)

theorem Actor.Move.epoch_le {a b : Actor φ σ} {effects : List Effect} {broken : Bool}
    (h : a.Move k effects broken b) : a.epoch ≤ b.epoch := by
  cases h with
  | plain | cleared | closeBroken | unfit | called | callBroken | sent | notified =>
    exact Nat.le_refl _
  | closed | started | refused | initBroken => exact Nat.le_succ _

theorem Epochs.move {done effects : List Effect} {a b : Actor φ σ} (h : Epochs done a)
    (hmove : a.Move k effects false b) : Epochs (done ++ effects) b := by
  refine ⟨fun x hx number epoch hopens => ?_, fun live hlive => ?_⟩
  · rcases List.mem_append.mp hx with hold | hnew
    · exact Nat.le_trans (h.opened x hold number epoch hopens) hmove.epoch_le
    · exact Nat.le_of_eq (hmove.of_opens hnew hopens).2.1
  · rcases hmove.engine_cases hlive with ⟨previous, hprevious, hnumber, hepoch, hsame⟩ |
      ⟨-, hnumber, hepoch, hsucc⟩
    · obtain ⟨hcurrent, hown⟩ := h.current previous hprevious
      refine ⟨hepoch.trans (hcurrent.trans hsame.symm), fun x hx number hopens => ?_⟩
      rcases List.mem_append.mp hx with hold | hnew
      · rw [hsame] at hopens
        exact (hown x hold number hopens).trans hnumber.symm
      · obtain ⟨-, -, hsucc⟩ := hmove.of_opens hnew hopens
        exact absurd (hsame.symm.trans hsucc) (Nat.ne_of_lt (Nat.lt_succ_self _))
    · refine ⟨hepoch, fun x hx number hopens => ?_⟩
      rcases List.mem_append.mp hx with hold | hnew
      · have hle := h.opened x hold number b.epoch hopens
        rw [hsucc] at hle
        exact absurd hle (Nat.not_succ_le_self _)
      · exact (hmove.of_opens hnew hopens).1.trans hnumber.symm

/-- An epoch that is over is not the current one. -/
theorem Over.current?_eq_none {done : List Effect} {a : Actor φ σ} {epoch : Nat}
    (h : Over k workshop done epoch) (hepochs : Epochs done a)
    (hfits : (Census.of k workshop done).Fits a) : a.current? epoch = none := by
  rcases hcurrent : a.current? epoch with _ | live
  · rfl
  · obtain ⟨rfl, hengine⟩ := Actor.engine_of_current? hcurrent
    obtain ⟨x, hx, number, hopens, hover⟩ := h
    obtain rfl := (hepochs.current live hengine).2 x hx number hopens
    have hlive : live.number ∈ (Census.of k workshop done).live := by
      rw [hfits.live_eq hengine]
      exact List.mem_singleton_self _
    obtain ⟨-, hopen, hunrefused⟩ := hfits.running _ hlive
    exact (hover.elim hopen hunrefused).elim

/-- Whether a message is about something of an earlier engine, after what was done: it carries an
epoch that is not the current one, or reports on a session that was created while another engine
ran. -/
def Stale (k : Kind φ σ) (workshop : φ) (done : List Effect) (a : Actor φ σ) : Message → Prop
  | .command (.hostPackets epoch _) => a.current? epoch = none
  | .command (.emitted epoch _) => a.current? epoch = none
  | .command (.written tag _) => a.current? tag.epoch = none
  | .notification n =>
    ∃ number, CreatedUnder k workshop done n.session number ∧
      (Census.of k workshop done).live ≠ [number]
  | _ => False

/-- A stale message leads to nothing. -/
theorem Stale.turn {done : List Effect} {l : Loop φ σ} {m : Message}
    (h : Stale k workshop done l.actor m) (horigin : Origin k workshop done l.actor) :
    l.turn k m = .done l.actor [] := by
  cases m with
  | tick => exact h.elim
  | notification n =>
    obtain ⟨number, hcreated, hlive⟩ := h
    have hgone : l.actor.table.entry? n.session = none :=
      Table.entry?_eq_none fun hid => hlive (horigin.running _ hid number hcreated)
    have hnotify : l.actor.table.notify (κ := WriteTag) n = (l.actor.table, none, []) := by
      rw [Table.notify, hgone]
    rw [Loop.turn, Actor.notification, hnotify]
    split
    · rfl
    · rfl
  | command c =>
    cases c with
    | start | stop | traffic | sessions | shutdown => exact h.elim
    | hostPackets epoch packets =>
      have hcurrent : l.actor.current? epoch = none := h
      simp only [Loop.turn, Actor.command, Actor.hostPackets, hcurrent]
    | emitted epoch emission =>
      have hcurrent : l.actor.current? epoch = none := h
      simp only [Loop.turn, Actor.command, Actor.emitted, hcurrent]
    | written tag result =>
      have hcurrent : l.actor.current? tag.epoch = none := h
      simp only [Loop.turn, Actor.command, Actor.written, hcurrent]

namespace Loop

variable {period : Nat} {record : List (Worked φ σ)} {l : Loop φ σ}

/-- What is known of engines, epochs and sessions is in line with the bridge. -/
theorem Run.origin (h : Run k (fresh workshop period) record (some l)) :
    (Census.of k workshop (effectsOf record)).Fits l.actor ∧ Epochs (effectsOf record) l.actor ∧
      Origin k workshop (effectsOf record) l.actor := by
  refine h.kept (I := fun done a => (Census.of k workshop done).Fits a ∧ Epochs done a ∧
    Origin k workshop done a)
    ⟨Census.fits_idle workshop, epochs_idle workshop, origin_idle k workshop⟩ ?_
  rintro done a b effects ⟨hfits, hepochs, horigin⟩ hmove
  have hnext := (hfits.move hmove).2 rfl
  rw [← Census.of_append] at hnext
  exact ⟨hnext, hepochs.move hmove, horigin.move hfits hmove⟩

/-- A timer that is in line stays as it is. -/
theorem Settled.settle (h : l.Settled) (now : Nat) : l.settle now = ([], some l) := by
  rw [Loop.settle]
  rcases hlive : l.actor.isLive with _ | _
  · have hnone : l.timer = none :=
      Option.not_isSome_iff_eq_none.mp (by rw [h, hlive]; exact Bool.false_ne_true)
    rw [← hnone]
  · obtain ⟨timer, htimer⟩ := Option.isSome_iff_exists.mp (h.trans hlive)
    rw [htimer]

/-- Work on a stale message leaves everything as it was. -/
theorem work_stale {done : List Effect} {m : Message} (h : Stale k workshop done l.actor m)
    (horigin : Origin k workshop done l.actor) (hsettled : l.Settled) (now : Nat) :
    l.work k now m = ([], some l) := by
  have htimer : l.timerAfter now m = l.timer := by
    cases m with
    | tick => exact h.elim
    | command | notification => rfl
  have hlast : isLast m = false := by
    cases m with
    | tick | notification => rfl
    | command c =>
      cases c with
      | shutdown => exact h.elim
      | start | stop | traffic | sessions | hostPackets | emitted | written => rfl
  rw [work, h.turn horigin, htimer, hlast]
  simp only [Turn.done, Bool.false_eq_true, ite_false, hsettled.settle, List.append_nil]

/-- Whether messages differ from others by one more, which finds the bridge at an end or is stale
then. -/
def Padded (k : Kind φ σ) (start : Loop φ σ) (messages more : List (Nat × Message)) : Prop :=
  ∃ before now m after, messages = before ++ after ∧ more = before ++ (now, m) :: after ∧
    ∀ l, (start.run k before).2 = some l →
      Stale k start.actor.workshop (effectsOf (start.run k before).1) l.actor m

/-- What is done in a run, and the bridge afterwards. -/
def outcome (k : Kind φ σ) (start : Loop φ σ) (messages : List (Nat × Message)) :
    List Effect × Option (Loop φ σ) :=
  (effectsOf (start.run k messages).1, (start.run k messages).2)

theorem outcome_padded {messages more : List (Nat × Message)}
    (h : Padded k (fresh workshop period) messages more) :
    outcome k (fresh workshop period) messages = outcome k (fresh workshop period) more := by
  obtain ⟨before, now, m, after, rfl, rfl, hstale⟩ := h
  have hrun := run_fresh k (fresh workshop period) before
  rcases hlast : ((fresh workshop period).run k before).2 with _ | l
  · rw [outcome, outcome, run_append_none k hlast, run_append_none k hlast]
  · rw [hlast] at hrun
    have hwork := work_stale (k := k) (hstale l hlast) hrun.origin.2.2 hrun.settled now
    rw [outcome, outcome, run_append_some k hlast, run_append_some k hlast]
    simp only [run, worked, hwork, effectsOf_append, effectsOf_cons, List.nil_append]

/-- Whatever a bridge is told and whatever its engines do: an epoch that is over never is the
current one again, and stale messages may come or not without any change in what is done and in
the bridge that is left. -/
theorem isolated_run (k : Kind φ σ) (workshop : φ) (period : Nat) :
    (∀ messages epoch,
      Over k workshop (effectsOf ((fresh workshop period).run k messages).1) epoch →
        ∀ more l, ((fresh workshop period).run k (messages ++ more)).2 = some l →
          l.actor.current? epoch = none) ∧
    ∀ messages others, Relation.EqvGen (Padded k (fresh workshop period)) messages others →
      outcome k (fresh workshop period) messages = outcome k (fresh workshop period) others := by
  refine ⟨fun messages epoch hover more l hlast => ?_, fun messages others h => ?_⟩
  · have hrun := run_fresh k (fresh workshop period) (messages ++ more)
    rw [hlast] at hrun
    obtain ⟨hfits, hepochs, -⟩ := hrun.origin
    refine Over.current?_eq_none ?_ hepochs hfits
    rcases hfirst : ((fresh workshop period).run k messages).2 with _ | found
    · rw [run_append_none k hfirst]
      exact hover
    · rw [run_append_some k hfirst, effectsOf_append]
      exact hover.append _
  · induction h with
    | rel messages others h => exact outcome_padded h
    | refl messages => rfl
    | symm messages others _ ih => exact ih.symm
    | trans messages others more _ _ ih ihmore => exact ih.trans ihmore

/-- Engines that answer every packet from the host with a datagram. -/
def answering : Scripted.Script :=
  ⟨[], [.datagram (.v4 ⟨10, 0, 0, 1⟩ 51820) none], [], [], [], []⟩

/-- An engine is started, a session is created for it, and another engine takes its place. -/
def restarting : List (Nat × Message) :=
  [(0, .command (.start complete)),
    (1, .command (.emitted 1 (.datagram (.v4 ⟨10, 0, 0, 1⟩ 51820) [7]))),
    (2, .command (.start complete))]

/-- Datagrams for the session and packets that were read for the first engine come too late. -/
def belated : List (Nat × Message) :=
  [(3, .notification ⟨1, 1, .datagrams [[8]]⟩), (4, .command (.hostPackets 1 [[9]]))]

/-- The second engine is not troubled by them, and the first epoch does not come back. -/
theorem isolated_belated :
    outcome answering.kind (fresh 0 1) restarting =
      outcome answering.kind (fresh 0 1) (restarting ++ belated) ∧
    ∀ l, ((fresh 0 1).run answering.kind (restarting ++ belated)).2 = some l →
      l.actor.current? 1 = none := by
  obtain ⟨hover, hpadded⟩ := isolated_run answering.kind 0 1
  constructor
  · refine hpadded _ _ (.trans _ (restarting ++ belated.take 1) _ (.rel _ _ ?_) (.rel _ _ ?_))
    · refine ⟨restarting, 3, .notification ⟨1, 1, .datagrams [[8]]⟩, [], rfl, rfl, fun l _ => ?_⟩
      -- the session was created while engine zero ran, and now engine one does
      exact ⟨0, ⟨(effectsOf ((fresh 0 1).run answering.kind restarting).1).take 3, _, _, rfl, rfl,
        by decide⟩, by decide⟩
    · refine ⟨restarting ++ belated.take 1, 4, .command (.hostPackets 1 [[9]]), [], rfl, rfl, ?_⟩
      intro l hl
      obtain rfl := Option.some.inj hl
      rfl
  · exact hover restarting 1
      ⟨.engine 0 (.init 1 ⟨.replicate 32 0, .replicate 32 0, .v4 ⟨10, 0, 0, 1⟩ 51820⟩),
        List.mem_cons_self, 0, ⟨rfl, rfl⟩, .inl (by decide)⟩ belated

end Loop

end PacketTunnel.Bridge
