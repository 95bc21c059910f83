import PacketTunnel.Proofs.HostReads

/-!
# The messages for an engine

Messages that carry the epoch of an engine are not sent before the engine was started. Those that
are taken while it runs come first, and those that are taken later find another engine or none. So
the messages of its epoch that an engine lives to see are the first of those that were sent.
-/

namespace PacketTunnel.Bridge

open Session

variable {φ σ : Type}

/-- The message of the channel that was worked on, if it was one. -/
def Worked.command? (x : Worked φ σ) : Option Command :=
  match x.message with
  | .command c => some c
  | .notification _ | .tick => none

namespace Loop

variable {k : Kind φ σ} {workshop : φ} {period : Nat} {record : List (Worked φ σ)}
  {last : Option (Loop φ σ)} {l : Loop φ σ} {x : Worked φ σ} {n e : Nat}

theorem mem_lifeOf : x ∈ lifeOf n record ↔
    x ∈ record ∧ ∃ live, x.before.actor.engine = some live ∧ live.number = n := by
  simp [lifeOf, Option.map_eq_some_iff]

theorem Run.number_lt (h : Run k (fresh workshop period) record (some l)) {live : Live σ}
    (hlive : l.actor.engine = some live) : live.number < l.actor.attempts := by
  obtain ⟨a, hall, hlast⟩ := h.conversation
  obtain rfl := hlast l rfl
  exact (hall.bounded _ (hall.live live hlive).1).1

/-- An engine that is seen at work was set up, and its epoch is the current one. -/
theorem Run.opened_of_life (h : Run k (fresh workshop period) record last)
    (hx : x ∈ lifeOf n record) : ∃ live, x.before.actor.engine = some live ∧ live.number = n ∧
      live.epoch = x.before.actor.epoch ∧ (n, live.epoch) ∈ openings (effectsOf record) := by
  obtain ⟨hmem, live, hlive, rfl⟩ := mem_lifeOf.mp hx
  obtain ⟨before, after, rfl⟩ := List.append_of_mem hmem
  obtain ⟨a, hbefore, hactor⟩ := h.at_message.1.conversation
  obtain rfl := hactor _ rfl
  obtain ⟨hmine, hepoch⟩ := hbefore.live live hlive
  refine ⟨live, hlive, rfl, hepoch, ?_⟩
  rw [effectsOf_append, openings_append]
  exact List.mem_append_left _ hmine

/-- An engine that has not been set up has done nothing. -/
theorem Run.lifeOf_eq_nil (h : Run k (fresh workshop period) record (some l))
    (hn : l.actor.attempts ≤ n) : lifeOf n record = [] := by
  refine List.eq_nil_iff_forall_not_mem.mpr fun x hx => ?_
  obtain ⟨live, -, -, -, hopened⟩ := h.opened_of_life hx
  obtain ⟨a, hall, hlast⟩ := h.conversation
  obtain rfl := hlast l rfl
  have hlt := (hall.bounded _ hopened).1
  dsimp only at hlt
  omega

/-- What an engine is seen to do in its epoch is done in the current one. -/
theorem Run.life (h : Run k (fresh workshop period) record last) (hx : x ∈ lifeOf n record)
    (hopen : (n, e) ∈ openings (effectsOf record)) : ∃ live, x.before.actor.engine = some live ∧
      live.number = n ∧ live.epoch = e ∧ x.before.actor.epoch = e := by
  obtain ⟨live, hlive, hnumber, hepoch, hopened⟩ := h.opened_of_life hx
  obtain ⟨a, hall, -⟩ := h.conversation
  have heq : live.epoch = e := (hall.fst_eq_iff hopened hopen).mp rfl
  exact ⟨live, hlive, hnumber, heq, hepoch.symm.trans heq⟩

/-- Attempts that are made in a turn have new numbers and epochs. -/
theorem openings_turn (k : Kind φ σ) (l : Loop φ σ) (m : Message) :
    ∀ p ∈ openings (l.turn k m).effects, l.actor.attempts ≤ p.1 ∧ l.actor.epoch < p.2 := by
  intro p hp
  rcases m.start_or with ⟨config, rfl⟩ | hm
  · have hturn : l.turn k (.command (.start config)) = l.actor.start k config := rfl
    have hstays := Actor.stays_stop k l.actor
    have hattempts := hstays.attempts
    have hle := hstays.epoch_le
    rw [hturn] at hp
    rcases l.actor.start_cases k config with ⟨-, hstart⟩ | ⟨-, t, hsetUp, hstart⟩
    · simp [hstart, Actor.openings_stop] at hp
    · rw [hstart, openings_append, Actor.openings_stop, List.nil_append] at hp
      have hp : p = ((l.actor.stop k).actor.attempts, (l.actor.stop k).actor.epoch + 1) := by
        cases hsetUp with
        | unfit => simp [Turn.done, openings, Effect.opening?] at hp
        | broken => simpa [Actor.openings_attempted] using hp
        | refused | running =>
          rw [Turn.done, openings_append, Actor.openings_attempted] at hp
          simpa [openings, Effect.opening?] using hp
      subst hp
      dsimp only
      omega
  · have hturned := Actor.turned_turn k l m
    rcases hengine : l.actor.engine with _ | live
    · simp [(hturned.silent hengine hm).opened] at hp
    · simp [(hturned.speaks hengine hm).opened] at hp

end Loop

namespace World

/-- The messages that were taken while the engine of a number ran. -/
def takenBy (w : World φ σ) (n : Nat) : List Item :=
  (w.log.taken.filter (·.1 = some n)).map Prod.snd

/-- Whether what is seen of the messages that an engine has taken are the first of what is seen of
all messages; while the engine runs there are no others. -/
structure Follows {α : Type} (w : World φ σ) (n : Nat) (look : Item → Option α) : Prop where
  /-- They are the first. -/
  first : (w.takenBy n).filterMap look <+: (w.log.taken.map Prod.snd).filterMap look
  /-- There are no others. -/
  all : w.running = some n →
    (w.takenBy n).filterMap look = (w.log.taken.map Prod.snd).filterMap look

namespace Follows

variable {α : Type} {w next : World φ σ} {n : Nat} {look : Item → Option α}

theorem of_nil (h : (w.log.taken.map Prod.snd).filterMap look = []) : w.Follows n look := by
  have hfew : (w.takenBy n).filterMap look = [] := by
    have hpart : ((w.takenBy n).filterMap look).Sublist
        ((w.log.taken.map Prod.snd).filterMap look) :=
      (List.filter_sublist.map Prod.snd).filterMap look
    rw [h] at hpart
    exact List.sublist_nil.mp hpart
  exact ⟨by simp [h, hfew], fun _ => by rw [h, hfew]⟩

/-- It stays so if more is taken while the engine runs that was running, and if no engine comes
back. -/
theorem grow (h : w.Follows n look) {more : List Item}
    (htaken : next.log.taken = w.log.taken ++ more.map fun item => (w.running, item))
    (hback : next.running = some n → w.running = some n) : next.Follows n look := by
  have hall : (next.log.taken.map Prod.snd).filterMap look =
      (w.log.taken.map Prod.snd).filterMap look ++ more.filterMap look := by
    simp [htaken, Function.comp_def]
  by_cases hruns : w.running = some n
  · have hmine : (next.takenBy n).filterMap look =
        (w.takenBy n).filterMap look ++ more.filterMap look := by
      simp [takenBy, htaken, hruns, List.filter_map, Function.comp_def]
    have heq : (next.takenBy n).filterMap look =
        (next.log.taken.map Prod.snd).filterMap look := by
      rw [hmine, hall, h.all hruns]
    exact ⟨by simp [heq], fun _ => heq⟩
  · have hmine : (next.takenBy n).filterMap look = (w.takenBy n).filterMap look := by
      simp [takenBy, htaken, hruns, List.filter_map, Function.comp_def]
    refine ⟨?_, fun hnext => absurd (hback hnext) hruns⟩
    rw [hmine, hall]
    exact h.first.trans (List.prefix_append _ _)

end Follows

/-- How the messages of an epoch are shared out. -/
structure Mail (w : World φ σ) : Prop where
  /-- The messages that an engine has taken are those of its turns. -/
  commands : ∀ n, (lifeOf n w.log.record).filterMap Worked.command? =
    (w.takenBy n).map Item.command
  /-- No packets are read for an epoch to come. -/
  later : ∀ l, w.bridge = some l → ∀ e, l.actor.epoch < e →
    w.log.sent.filterMap (Item.batch? e) = []
  /-- An engine takes the first of the messages about what it put out, -/
  emissions : ∀ n e, (n, e) ∈ openings (Loop.effectsOf w.log.record) →
    w.Follows n (Item.emission? e)
  /-- and the first of the packets that were read for it. -/
  batches : ∀ n e, (n, e) ∈ openings (Loop.effectsOf w.log.record) → w.Follows n (Item.batch? e)

namespace Mail

variable {k : Kind φ σ} {workshop : φ} {period : Nat} {w v next : World φ σ} {l : Loop φ σ}

theorem fresh (workshop : φ) (period : Nat) : (World.fresh workshop period : World φ σ).Mail := by
  refine ⟨fun n => rfl, fun l _ e _ => rfl, fun n e h => ?_, fun n e h => ?_⟩
  · simp [World.fresh, Loop.effectsOf, openings] at h
  · simp [World.fresh, Loop.effectsOf, openings] at h

/-- A change that takes nothing. -/
theorem of_same (h : w.Mail) (hbridge : next.bridge = w.bridge)
    (hrecord : next.log.record = w.log.record) (htaken : next.log.taken = w.log.taken)
    (hlater : ∀ l, w.bridge = some l → ∀ e, l.actor.epoch < e →
      next.log.sent.filterMap (Item.batch? e) = []) : next.Mail := by
  have hrunning : next.running = w.running := by rw [running, running, hbridge]
  have hgrow {α : Type} {look : Item → Option α} {n : Nat} (hfollows : w.Follows n look) :
      next.Follows n look := by
    have hnone : next.log.taken = w.log.taken ++
        ([] : List Item).map fun item => (w.running, item) := by simp [htaken]
    exact hfollows.grow hnone fun hnext => hrunning ▸ hnext
  refine ⟨fun n => ?_, fun l hl => hlater l (hbridge ▸ hl), fun n e hopen => ?_,
    fun n e hopen => ?_⟩
  · rw [hrecord, h.commands n, takenBy, takenBy, htaken]
  · rw [hrecord] at hopen
    exact hgrow (h.emissions n e hopen)
  · rw [hrecord] at hopen
    exact hgrow (h.batches n e hopen)

/-- No engine comes back. -/
theorem running_of_work {now n : Nat} {m : Message} (hbridge : w.bridge = some l)
    (hn : n < l.actor.attempts) (h : (v.work k l now m).running = some n) :
    w.running = some n := by
  rw [running, Option.bind_eq_some_iff] at h
  obtain ⟨l', hafter, hnumber⟩ := h
  obtain ⟨live, hlive, rfl⟩ := Option.map_eq_some_iff.mp hnumber
  rw [(Loop.actor_of_after hafter).1] at hlive
  rcases m.start_or with ⟨config, rfl⟩ | hm
  · rcases l.actor.start_outcome k config with ⟨started, hsucceeds⟩ | hfails
    · obtain rfl := Option.some.inj (hsucceeds.engine.symm.trans hlive)
      have hnew : (started.number, started.epoch) ∈ openings (l.actor.start k config).effects := by
        simp [hsucceeds.opened]
      have hle := (Loop.openings_turn k l (.command (.start config)) _ hnew).1
      dsimp only at hle
      omega
    · exact absurd (hlive.symm.trans hfails.engine) (Option.some_ne_none _)
  · have hturned := Actor.turned_turn k l m
    rcases hengine : l.actor.engine with _ | before
    · exact absurd (hlive.symm.trans (hturned.silent hengine hm).engine) (Option.some_ne_none _)
    · obtain ⟨state, -, rfl⟩ := (hturned.speaks hengine hm).engine live hlive
      simp [running, hbridge, hengine]

/-- A turn begins, about a message that was taken or about none. -/
theorem turn (h : w.Mail) (hsound : w.Sound k workshop period) (hbridge : w.bridge = some l)
    {m : Message} {now : Nat} (hnext : (v.work k l now m).Sound k workshop period)
    (hahead : w.ahead = []) (hrecord : v.log.record = w.log.record)
    (hsent : v.log.sent = w.log.sent) {more : List Item}
    (htaken : v.log.taken = w.log.taken ++ more.map fun item => (w.running, item))
    (hmore : (l.worked k now m).command?.toList = more.map Item.command) :
    (v.work k l now m).Mail := by
  have hconversation := hsound.conversation hbridge
  have hback {n e : Nat} (hopen : (n, e) ∈ openings (Loop.effectsOf w.log.record)) :
      (v.work k l now m).running = some n → w.running = some n :=
    running_of_work hbridge (hconversation.bounded _ hopen).1
  have hopened (n e : Nat)
      (hopen : (n, e) ∈ openings (Loop.effectsOf (v.work k l now m).log.record)) :
      (n, e) ∈ openings (Loop.effectsOf w.log.record) ∨ l.actor.epoch < e := by
    have hturn : openings (l.worked k now m).effects = openings (l.turn k m).effects :=
      Loop.filterMap_worked (fun _ => rfl) k l now m
    rw [record_work, hrecord, Loop.effectsOf_append, Loop.effectsOf_singleton, openings_append,
      hturn] at hopen
    rcases List.mem_append.mp hopen with hold | hnew
    · exact .inl hold
    · exact .inr (Loop.openings_turn k l m _ hnew).2
  have hnone {α : Type} {look : Item → Option α} (hlook : w.log.sent.filterMap look = []) :
      ((v.work k l now m).log.taken.map Prod.snd).filterMap look = [] := by
    have horder := hnext.order
    have hlook : ((v.work k l now m).log.sent).filterMap look = [] := by
      rw [← hlook, ← hsent]
      rfl
    rw [← horder, List.filterMap_append] at hlook
    exact (List.append_eq_nil_iff.mp hlook).1
  refine ⟨fun n => ?_, fun l' hl' e he => ?_, fun n e hopen => ?_, fun n e hopen => ?_⟩
  · have hmine : (v.work k l now m).takenBy n = w.takenBy n ++
        if w.running = some n then more else [] := by
      by_cases hruns : w.running = some n <;>
        simp [takenBy, work, htaken, hruns, List.filter_map, Function.comp_def]
    have hrunning : w.running = l.actor.engine.map (·.number) := by simp [running, hbridge]
    have hlife : lifeOf n [l.worked k now m] =
        if w.running = some n then [l.worked k now m] else [] := by
      rw [lifeOf_singleton, hrunning]
      rfl
    rw [record_work, hrecord, lifeOf_append, hlife, hmine, List.filterMap_append, h.commands n,
      List.map_append]
    by_cases hruns : w.running = some n
    · simp only [hruns, if_true, ← hmore]
      rcases hc : (l.worked k now m).command? with _ | c <;> simp [hc]
    · simp [hruns]
  · have hle : l.actor.epoch ≤ l'.actor.epoch := by
      rw [(Loop.actor_of_after hl').1]
      exact (Loop.moved_turn k l m).epoch_le
    have hzero := h.later l hbridge e (Nat.lt_of_le_of_lt hle he)
    rw [← hzero, ← hsent]
    rfl
  -- an engine that was there takes more or nothing; for one that is new nothing was sent yet
  · rcases hopened n e hopen with hold | hnew
    · exact (h.emissions n e hold).grow htaken (hback hold)
    · have hposted := hsound.posted e
      rw [hahead, hconversation.unheard e hnew] at hposted
      exact .of_nil (hnone (List.append_eq_nil_iff.mp hposted).1)
  · rcases hopened n e hopen with hold | hnew
    · exact (h.batches n e hold).grow htaken (hback hold)
    · exact .of_nil (hnone (h.later l hbridge e hnew))

/-- Whatever happens, messages are shared out like this. -/
theorem step (hsound : w.Sound k workshop period) (hreads : w.Reads) (h : w.Mail)
    (hnext : Happens k w next) : next.Mail := by
  have hlater := hsound.step hnext
  have hsend {u : World φ σ} {item : Item} (hsent : u.log.sent = w.log.sent)
      (hitem : ∀ e, item.batch? e = none) : ∀ l, w.bridge = some l → ∀ e, l.actor.epoch < e →
        (u.send item).log.sent.filterMap (Item.batch? e) = [] := by
    intro l hl e he
    simp [send, hsent, hitem, h.later l hl e he]
  cases hnext with
  | idle => exact h
  | asked request =>
    exact h.of_same rfl rfl rfl (hsend rfl fun e => by cases request <;> rfl)
  | @acted x rest hahead =>
    cases x with
    | post c =>
      obtain ⟨epoch, emission, rfl⟩ := hsound.posting c (hahead ▸ List.mem_cons_self)
      exact h.of_same rfl rfl rfl (hsend rfl fun e => rfl)
    | session effect => cases effect <;> exact h.of_same rfl rfl rfl h.later
    | engine | readHost | writeHost | started | traffic | sessions =>
      exact h.of_same rfl rfl rfl h.later
  | @took l item rest hbridge hahead hchannel now =>
    have htaken : (w.took item rest).log.taken =
        w.log.taken ++ [item].map fun item => (w.running, item) := rfl
    exact h.turn hsound hbridge hlater hahead rfl rfl htaken rfl
  | @told l m hbridge hahead hm now =>
    have htaken : w.log.taken = w.log.taken ++
        ([] : List Item).map fun item => (w.running, item) := by simp
    refine h.turn hsound hbridge hlater hahead rfl rfl htaken ?_
    rcases m with c | n | -
    · exact absurd rfl (hm c)
    · rfl
    · rfl
  | @read index epoch hread packets =>
    refine h.of_same rfl rfl rfl fun l hl e he => ?_
    have hne : epoch ≠ e := by
      rintro rfl
      have hnone := hreads.later l hl epoch he
      have herase := tokens_eraseIdx hread epoch
      simp only [if_true] at herase
      omega
    have hitem : (⟨.hostPackets epoch packets, none⟩ : Item).batch? e = none := if_neg hne
    simp [send, hitem, h.later l hl e he]
  | discarded | lost => exact h.of_same rfl rfl rfl h.later
  | finished => exact h.of_same rfl rfl rfl (hsend rfl fun e => rfl)

end Mail

/-- Whatever happens around a bridge, its engines take the first of their messages. -/
theorem mail_run (k : Kind φ σ) (workshop : φ) (period : Nat) (steps : List WorldStep) :
    ((fresh workshop period).run k steps).Mail := by
  have hall : ((fresh workshop period).run k steps).Sound k workshop period ∧
      ((fresh workshop period).run k steps).Reads ∧ ((fresh workshop period).run k steps).Mail :=
    run_kept (I := fun w => w.Sound k workshop period ∧ w.Reads ∧ w.Mail)
      (fun h hnext => ⟨h.1.step hnext, h.2.1.step h.1 hnext, h.2.2.step h.1 h.2.1 hnext⟩)
      ⟨.fresh k workshop period, reads_fresh workshop period, .fresh workshop period⟩ steps
  exact hall.2.2

end World

end PacketTunnel.Bridge
