import PacketTunnel.Proofs.BridgeWorld
import PacketTunnel.Proofs.EpochIsolation
import PacketTunnel.Proofs.LatestStart

/-!
# Reads from the host

A start that succeeds asks for packets once, and so does every batch of packets that finds the
engine running for which it was read. So as long as an engine runs there is one read for it: its
handler is with the host, or its packets wait in the channel. Handlers of earlier engines may still
be called, but nothing comes of it.
-/

namespace PacketTunnel.Bridge

open Session

variable {φ σ : Type}

namespace Actor

variable {k : Kind φ σ} {a b : Actor φ σ} {m : Message} {t : Turn φ σ}

theorem Moves.epoch_le {effects : List Effect} {broken : Bool} (h : a.Moves k effects broken b) :
    a.epoch ≤ b.epoch := by
  induction h with
  | nil => exact Nat.le_refl _
  | cons first rest ih => exact Nat.le_trans first.epoch_le ih
  | broken last => exact last.epoch_le

/-- Packets are asked for in a turn by a start that succeeds, or by packets that were read for the
engine that runs, unless these break it. -/
theorem Turned.armed (h : a.Turned k m t) (hm : ∀ config, m ≠ .command (.start config)) :
    t.effects.filterMap Effect.armed? = [] ∧
        (∀ packets, m = .command (.hostPackets a.epoch packets) → a.engine = none ∨ t.broken) ∨
      t.effects.filterMap Effect.armed? = [a.epoch] ∧ a.engine ≠ none ∧
        ∃ packets, m = .command (.hostPackets a.epoch packets) := by
  have hnone (harmed : t.effects.filterMap Effect.armed? = [])
      (hother : ∀ packets, m ≠ .command (.hostPackets a.epoch packets)) :
      t.effects.filterMap Effect.armed? = [] ∧
        (∀ packets, m = .command (.hostPackets a.epoch packets) → a.engine = none ∨ t.broken) :=
    ⟨harmed, fun packets heq => absurd heq (hother packets)⟩
  cases h with
  | started config => exact absurd rfl (hm config)
  | ignored hignored =>
    refine .inl ⟨rfl, fun packets heq => .inl ?_⟩
    subst heq
    simpa [Ignores, current?] using hignored
  | told hanswer =>
    rcases answer?_cases hanswer with ⟨rfl, rfl⟩ | ⟨rfl, rfl⟩ <;>
      exact .inl (hnone rfl fun _ heq => by cases heq)
  | stopped hc =>
    refine .inl (hnone (seen_stop k a).2 ?_)
    rintro packets heq
    rcases hc with rfl | rfl <;> cases heq
  | @fed live hengine packets =>
    have htalked := filterMap_talked blind_armed a live (k.talk (packets.map .host) live.state)
    rw [Turn.andThen]
    split
    next hbroken => exact .inl ⟨htalked, fun _ _ => .inr hbroken⟩
    next =>
      refine .inr ⟨?_, by simp [hengine], packets, rfl⟩
      simp [htalked, Turn.done, Effect.armed?]
  | wrote | counted => exact .inl (hnone rfl fun _ heq => by cases heq)
  | sent =>
    refine .inl (hnone ?_ fun _ heq => by cases heq)
    simp [Turn.done, Effect.armed?]
  | @heard live hengine n =>
    have htalked := filterMap_talked blind_armed (a.hearing k live n) live
      (k.talk ((a.brought n).map .tunnel) live.state)
    refine .inl (hnone ?_ fun _ heq => by cases heq)
    simp [Turn.andThen, Turn.done, htalked, heeding, Effect.armed?]
  | @ticked live hengine =>
    exact .inl (hnone (filterMap_talked blind_armed a live _) fun _ heq => by cases heq)

end Actor

namespace World

/-- How many reads there are for an epoch: to be asked for in this turn, with the host, in the
channel, and never to come. -/
def tokens (w : World φ σ) (e : Nat) : Nat :=
  (w.ahead.filterMap Effect.armed?).count e + w.reads.count e +
    (w.channel.filterMap (Item.batch? e)).length + w.log.discarded.count e

/-- No epoch has two reads, none has one before it is opened, and the engine that runs has one. -/
structure Reads (w : World φ σ) : Prop where
  /-- No epoch has two. -/
  one : ∀ e, w.tokens e ≤ 1
  /-- Epochs to come have none. -/
  later : ∀ l, w.bridge = some l → ∀ e, l.actor.epoch < e → w.tokens e = 0
  /-- The engine that runs has one. -/
  live : ∀ l live, w.bridge = some l → l.actor.engine = some live → w.tokens live.epoch = 1

variable {k : Kind φ σ} {workshop : φ} {period : Nat} {w next : World φ σ} {l : Loop φ σ}

theorem reads_fresh (workshop : φ) (period : Nat) : (fresh workshop period : World φ σ).Reads := by
  refine ⟨fun e => Nat.zero_le 1, fun l _ e _ => rfl, fun l live hbridge hlive => ?_⟩
  obtain rfl := Option.some.inj hbridge
  simp [Loop.fresh, Actor.idle] at hlive

/-- A change that leaves reads alone. -/
theorem Reads.of_same (h : w.Reads) (hbridge : next.bridge = w.bridge)
    (htokens : ∀ e, next.tokens e = w.tokens e) : next.Reads := by
  refine ⟨fun e => ?_, fun l hl e he => ?_, fun l live hl hlive => ?_⟩
  · rw [htokens]
    exact h.one e
  · rw [htokens]
    exact h.later l (hbridge ▸ hl) e he
  · rw [htokens]
    exact h.live l live (hbridge ▸ hl) hlive

theorem tokens_send (w : World φ σ) (item : Item) (e : Nat) :
    (w.send item).tokens e = w.tokens e + (item.batch? e).toList.length := by
  rcases hbatch : item.batch? e with _ | packets
  · simp [tokens, send, hbatch]
  · simp [tokens, send, hbatch]
    omega

/-- To ask for packets makes no more reads than there were. -/
theorem tokens_perform {x : Effect} {rest : List Effect} (hposting : Posting w.ahead)
    (hahead : w.ahead = x :: rest) (e : Nat) :
    ({ w with ahead := rest }.perform x).tokens e = w.tokens e := by
  have hrest (hx : x.armed? = none) : ({ w with ahead := rest } : World φ σ).tokens e =
      w.tokens e := by
    simp [tokens, hahead, hx]
  cases x with
  | post c =>
    obtain ⟨epoch, emission, rfl⟩ := hposting c (hahead ▸ List.mem_cons_self)
    rw [perform, tokens_send]
    exact hrest rfl
  | readHost epoch =>
    by_cases he : epoch = e
    · simp [tokens, perform, hahead, Effect.armed?, he]
      omega
    · simp [tokens, perform, hahead, Effect.armed?, he]
  | session effect => cases effect <;> exact hrest rfl
  | engine | writeHost | started | traffic | sessions => exact hrest rfl

/-- A handler that is taken from the host was one read. -/
theorem tokens_eraseIdx {index epoch : Nat} (h : w.reads[index]? = some epoch) (e : Nat) :
    ({ w with reads := w.reads.eraseIdx index } : World φ σ).tokens e +
      (if epoch = e then 1 else 0) = w.tokens e := by
  have hcount := (perm_eraseIdx h).count_eq e
  rw [List.count_cons] at hcount
  simp only [tokens, beq_iff_eq] at hcount ⊢
  omega

/-- The reads that a turn asks for come on top. -/
theorem tokens_work (hahead : w.ahead = []) (l : Loop φ σ) (now : Nat) (m : Message) (e : Nat) :
    (w.work k l now m).tokens e =
      w.tokens e + ((l.turn k m).effects.filterMap Effect.armed?).count e := by
  have hturn : (l.worked k now m).effects.filterMap Effect.armed? =
      (l.turn k m).effects.filterMap Effect.armed? := Loop.filterMap_worked (fun _ => rfl) k l now m
  simp only [tokens, work, hahead, hturn, List.filterMap_nil, List.count_nil]
  omega

/-- How many reads of an epoch are used up by a message. -/
def used (m : Message) (e : Nat) : Nat :=
  match m with
  | .command (.hostPackets epoch _) => if epoch = e then 1 else 0
  | _ => 0

/-- The reads of a bridge that asks for packets in an epoch that had no read. -/
theorem Reads.arm {v : World φ σ} {epoch : Nat} (h : w.Reads) (hnone : v.tokens epoch = 0)
    (hother : ∀ e, epoch ≠ e → v.tokens e = w.tokens e) (hbridge : w.bridge = some l)
    (htokens : ∀ e, next.tokens e = v.tokens e + [epoch].count e)
    (hnext : ∀ l', next.bridge = some l' → l.actor.epoch ≤ l'.actor.epoch ∧
      epoch ≤ l'.actor.epoch ∧ ∀ live, l'.actor.engine = some live → live.epoch = epoch) :
    next.Reads := by
  have hone : next.tokens epoch = 1 := by simp [htokens, hnone]
  have hsame (e : Nat) (he : epoch ≠ e) : next.tokens e = w.tokens e := by
    simp [htokens, hother e he, he]
  refine ⟨fun e => ?_, fun l' hl' e hlt => ?_, fun l' live hl' hlive => ?_⟩
  · by_cases he : epoch = e
    · subst he
      exact Nat.le_of_eq hone
    · rw [hsame e he]
      exact h.one e
  · obtain ⟨hle, hopen, -⟩ := hnext l' hl'
    rw [hsame e (Nat.ne_of_lt (Nat.lt_of_le_of_lt hopen hlt))]
    exact h.later l hbridge e (Nat.lt_of_le_of_lt hle hlt)
  · obtain ⟨-, -, hepoch⟩ := hnext l' hl'
    rw [hepoch live hlive]
    exact hone

/-- The reads of a bridge that does not ask for packets. -/
theorem Reads.rest {v : World φ σ} (h : w.Reads) (hle : ∀ e, v.tokens e ≤ w.tokens e)
    (hbridge : w.bridge = some l) (htokens : ∀ e, next.tokens e = v.tokens e)
    (hnext : ∀ l', next.bridge = some l' → l.actor.epoch ≤ l'.actor.epoch ∧
      ∀ live, l'.actor.engine = some live → ∃ before, l.actor.engine = some before ∧
        live.epoch = before.epoch ∧ v.tokens before.epoch = w.tokens before.epoch) :
    next.Reads := by
  refine ⟨fun e => ?_, fun l' hl' e hlt => ?_, fun l' live hl' hlive => ?_⟩
  · rw [htokens]
    exact Nat.le_trans (hle e) (h.one e)
  · have hzero := h.later l hbridge e (Nat.lt_of_le_of_lt (hnext l' hl').1 hlt)
    have hfewer := hle e
    rw [htokens]
    omega
  · obtain ⟨before, hbefore, hepoch, hkept⟩ := (hnext l' hl').2 live hlive
    rw [htokens, hepoch, hkept]
    exact h.live l before hbridge hbefore

/-- A turn about packets for the engine that runs uses its read up and asks for the next; any other
turn leaves it alone, and a start that succeeds asks for the first. -/
theorem Reads.turn {v : World φ σ} (h : w.Reads) (hbridge : w.bridge = some l)
    (hahead : v.ahead = []) {m : Message} (htokens : ∀ e, v.tokens e + used m e = w.tokens e)
    (now : Nat) (hmine : ∀ live, l.actor.engine = some live → live.epoch = l.actor.epoch)
    (hepoch : ∀ l' live, (l.worked k now m).after = some l' → l'.actor.engine = some live →
      live.epoch = l'.actor.epoch) : (v.work k l now m).Reads := by
  have hwork := tokens_work (k := k) hahead l now m
  have hle := (Loop.moved_turn k l m).epoch_le
  rcases m.start_or with ⟨config, rfl⟩ | hm
  · have hsame (e : Nat) : v.tokens e = w.tokens e := htokens e
    have hturn : l.turn k (.command (.start config)) = l.actor.start k config := rfl
    rw [hturn] at hle
    rcases l.actor.start_outcome k config with ⟨started, hsucceeds⟩ | hfails
    · rw [hturn, hsucceeds.armed] at hwork
      have hnew := h.later l hbridge _ hsucceeds.epoch_lt
      refine h.arm ((hsame _).trans hnew) (fun e _ => hsame e) hbridge hwork fun l' hl' => ?_
      obtain ⟨hactor, -⟩ := Loop.actor_of_after hl'
      have hrunning : l'.actor.engine = some started := by rw [hactor]; exact hsucceeds.engine
      have hopen := hepoch l' started hl' hrunning
      refine ⟨by rw [hactor]; exact hle, Nat.le_of_eq hopen, fun live hlive => ?_⟩
      rw [Option.some.inj (hlive.symm.trans hrunning)]
    · rw [hturn, hfails.armed] at hwork
      refine h.rest (fun e => Nat.le_of_eq (hsame e)) hbridge hwork fun l' hl' => ?_
      obtain ⟨hactor, -⟩ := Loop.actor_of_after hl'
      refine ⟨by rw [hactor]; exact hle, fun live hlive => ?_⟩
      rw [hactor] at hlive
      exact absurd (hlive.symm.trans hfails.engine) (Option.some_ne_none _)
  · have hturned := Actor.turned_turn k l m
    rcases hturned.armed hm with ⟨harmed, hother⟩ | ⟨harmed, hruns, packets, rfl⟩
    · rw [harmed] at hwork
      refine h.rest (fun e => Nat.le.intro (htokens e)) hbridge hwork fun l' hl' => ?_
      obtain ⟨hactor, hgoes⟩ := Loop.actor_of_after hl'
      refine ⟨by rw [hactor]; exact hle, fun live hlive => ?_⟩
      rw [hactor] at hlive
      rcases hengine : l.actor.engine with _ | before
      · have hsilent := hturned.silent hengine hm
        exact absurd (hlive.symm.trans hsilent.engine) (Option.some_ne_none _)
      · obtain ⟨state, -, rfl⟩ := (hturned.speaks hengine hm).engine live hlive
        refine ⟨before, rfl, rfl, ?_⟩
        have hunused : used m before.epoch = 0 := by
          rcases m with c | n | -
          · cases c with
            | hostPackets epoch packets =>
              refine if_neg fun heq => ?_
              subst heq
              rcases hother packets (by rw [hmine before hengine]) with hnone | hbroken
              · exact absurd (hengine.symm.trans hnone) (Option.some_ne_none _)
              · exact absurd (hgoes.symm.trans hbroken) Bool.false_ne_true
            | start | stop | traffic | sessions | emitted | written | shutdown => rfl
          · rfl
          · rfl
        have hkept := htokens before.epoch
        omega
    · -- the read of the epoch is used up by the message, so there is none left when it is asked for
      rw [harmed] at hwork
      obtain ⟨live, hlive⟩ := Option.ne_none_iff_exists'.mp hruns
      have hread := h.live l live hbridge hlive
      rw [hmine live hlive] at hread
      have hused := htokens l.actor.epoch
      have hone : used (.command (.hostPackets l.actor.epoch packets)) l.actor.epoch = 1 :=
        if_pos rfl
      refine h.arm (by omega) (fun e he => ?_) hbridge hwork fun l' hl' => ?_
      · have hnone : used (.command (.hostPackets l.actor.epoch packets)) e = 0 := if_neg he
        have hkept := htokens e
        omega
      · obtain ⟨hactor, -⟩ := Loop.actor_of_after hl'
        rw [← hactor] at hle
        refine ⟨hle, hle, fun next hnext => ?_⟩
        rw [hactor] at hnext
        obtain ⟨state, -, rfl⟩ := (hturned.speaks hlive hm).engine next hnext
        exact hmine live hlive

theorem tokens_took {item : Item} {rest : List Item} (h : w.channel = item :: rest) (e : Nat) :
    (w.took item rest).tokens e + used (.command item.command) e = w.tokens e := by
  have hbatch : (item.batch? e).toList.length = used (.command item.command) e := by
    obtain ⟨command, parcel⟩ := item
    cases command with
    | hostPackets epoch packets => by_cases he : epoch = e <;> simp [Item.batch?, used, he]
    | start | stop | traffic | sessions | emitted | written | shutdown => rfl
  rcases hitem : item.batch? e with _ | packets
  · rw [hitem] at hbatch
    simp only [tokens, took, h, List.filterMap_cons, hitem] at hbatch ⊢
    simp at hbatch
    omega
  · rw [hitem] at hbatch
    simp only [tokens, took, h, List.filterMap_cons, hitem, List.length_cons] at hbatch ⊢
    simp at hbatch
    omega

/-- Whatever happens, reads stay as they should be. -/
theorem Reads.step (hsound : w.Sound k workshop period) (h : w.Reads) (hnext : Happens k w next) :
    next.Reads := by
  have hlater := hsound.step hnext
  cases hnext with
  | idle => exact h
  | asked request =>
    refine h.of_same rfl fun e => ?_
    have hbatch : (⟨request.command, none⟩ : Item).batch? e = none := by cases request <;> rfl
    simp [tokens_send, hbatch]
  | @acted x rest hahead =>
    have hbridge : ({ w with ahead := rest }.perform x).bridge = w.bridge := by
      cases x with
      | session effect => cases effect <;> rfl
      | engine | post | readHost | writeHost | started | traffic | sessions => rfl
    exact h.of_same hbridge (tokens_perform hsound.posting hahead)
  | @took l item rest hbridge hahead hchannel now =>
    have htook := tokens_took hchannel
    refine h.turn (v := w.took item rest) hbridge hahead htook now ?_ ?_
    · exact fun live hlive => ((hsound.conversation hbridge).live live hlive).2
    · exact fun l' live hl' hlive => ((hlater.conversation hl').live live hlive).2
  | @told l m hbridge hahead hm now =>
    have hunused (e : Nat) : w.tokens e + used m e = w.tokens e := by
      rcases m with c | n | -
      · exact absurd rfl (hm c)
      · rfl
      · rfl
    refine h.turn hbridge hahead hunused now ?_ ?_
    · exact fun live hlive => ((hsound.conversation hbridge).live live hlive).2
    · exact fun l' live hl' hlive => ((hlater.conversation hl').live live hlive).2
  | @read index epoch hread packets =>
    refine h.of_same rfl fun e => ?_
    have herase := tokens_eraseIdx hread e
    rw [tokens_send]
    by_cases he : epoch = e <;> simp [Item.batch?, he] at herase ⊢ <;> omega
  | @discarded index epoch hread =>
    refine h.of_same rfl fun e => ?_
    have herase := tokens_eraseIdx hread e
    by_cases he : epoch = e <;> simp [tokens, he] at herase ⊢ <;> omega
  | finished =>
    refine h.of_same rfl fun e => ?_
    rw [tokens_send]
    rfl
  | lost => exact h.of_same rfl fun e => rfl

theorem reads_run (k : Kind φ σ) (workshop : φ) (period : Nat) (steps : List WorldStep) :
    ((fresh workshop period).run k steps).Reads := by
  have hboth : ((fresh workshop period).run k steps).Sound k workshop period ∧
      ((fresh workshop period).run k steps).Reads :=
    run_kept (I := fun w => w.Sound k workshop period ∧ w.Reads)
      (fun h hnext => ⟨h.1.step hnext, h.2.step h.1 hnext⟩)
      ⟨.fresh k workshop period, reads_fresh workshop period⟩ steps
  exact hboth.2

/-- How packets are read from the host. -/
structure Reading (w : World φ σ) : Prop where
  /-- If the host discards no handler, there is one read for the engine that runs whenever a turn is
  done: the host holds its handler, or its packets wait in the channel. -/
  one : w.log.discarded = [] → ∀ l live, w.bridge = some l → l.actor.engine = some live →
    w.ahead = [] →
      w.reads.count live.epoch + (w.channel.filterMap (Item.batch? live.epoch)).length = 1
  /-- Within a turn it may be that it is still to be asked for. And a handler that was discarded
  counts for good, as it is never asked for again. -/
  within : ∀ l live, w.bridge = some l → l.actor.engine = some live →
    (w.ahead.filterMap Effect.armed?).count live.epoch + w.reads.count live.epoch +
      (w.channel.filterMap (Item.batch? live.epoch)).length +
        w.log.discarded.count live.epoch = 1
  /-- No engine has two reads at once, whether it runs or not. -/
  single : ∀ e, w.reads.count e + (w.channel.filterMap (Item.batch? e)).length ≤ 1
  /-- Packets that were read for an engine lead to the next read for it while it runs, unless they
  break it. -/
  rearmed : ∀ x ∈ w.log.record, ∀ packets live, x.before.actor.engine = some live →
    x.message = .command (.hostPackets live.epoch packets) → x.after ≠ none →
      x.effects.filterMap Effect.armed? = [live.epoch]
  /-- Packets that were read for another engine lead to nothing. -/
  stale : ∀ x ∈ w.log.record, ∀ e packets, x.message = .command (.hostPackets e packets) →
    (∀ live, x.before.actor.engine = some live → live.epoch ≠ e) →
      x.effects = [] ∧ x.after = some x.before

section Record

variable {record : List (Worked φ σ)} {last : Option (Loop φ σ)} {x : Worked φ σ}

theorem epoch_eq (h : Loop.Run k (.fresh workshop period) record (some l)) {live : Live σ}
    (hlive : l.actor.engine = some live) : live.epoch = l.actor.epoch :=
  (h.origin.2.1.current live hlive).1

theorem rearmed_of_run (h : Loop.Run k (.fresh workshop period) record last) (hx : x ∈ record)
    {packets : List Packet} {live : Live σ} (hlive : x.before.actor.engine = some live)
    (hm : x.message = .command (.hostPackets live.epoch packets)) (hafter : x.after ≠ none) :
    x.effects.filterMap Effect.armed? = [live.epoch] := by
  obtain ⟨before, hbefore, now, hworked⟩ := h.exists_before hx
  have hepoch := epoch_eq hbefore hlive
  obtain ⟨next, hnext⟩ := Option.ne_none_iff_exists'.mp hafter
  rw [hworked] at hnext
  obtain ⟨-, hgoes⟩ := Loop.actor_of_after hnext
  have hstart : ∀ config, x.message ≠ .command (.start config) := by
    rw [hm]
    exact fun config heq => by cases heq
  rw [hworked, Loop.filterMap_worked fun _ => rfl]
  rcases (Actor.turned_turn k x.before x.message).armed hstart with ⟨-, hother⟩ | ⟨harmed, -⟩
  · rcases hother packets (by rw [hm, hepoch]) with hnone | hbroken
    · exact absurd (hlive.symm.trans hnone) (Option.some_ne_none _)
    · exact absurd (hgoes.symm.trans hbroken) Bool.false_ne_true
  · rw [harmed, hepoch]

theorem stale_of_run (h : Loop.Run k (.fresh workshop period) record last) (hx : x ∈ record)
    {e : Nat} {packets : List Packet} (hm : x.message = .command (.hostPackets e packets))
    (hother : ∀ live, x.before.actor.engine = some live → live.epoch ≠ e) :
    x.effects = [] ∧ x.after = some x.before := by
  obtain ⟨before, hbefore, now, hworked⟩ := h.exists_before hx
  have hstale : Stale k workshop (Loop.effectsOf before) x.before.actor x.message := by
    rw [hm]
    rcases hcurrent : x.before.actor.current? e with _ | live
    · exact hcurrent
    · obtain ⟨rfl, hlive⟩ := Actor.engine_of_current? hcurrent
      exact absurd (epoch_eq hbefore hlive) (hother live hlive)
  have hwork := Loop.work_stale hstale hbefore.origin.2.2 hbefore.settled now
  rw [hworked, Loop.worked, hwork]
  exact ⟨rfl, rfl⟩

end Record

/-- Whatever happens around a bridge and whatever its engines do, there is one read for the engine
that runs. -/
theorem reading_run (k : Kind φ σ) (workshop : φ) (period : Nat) (steps : List WorldStep) :
    Reading ((fresh workshop period).run k steps) := by
  have hsound := sound_run k workshop period steps
  have hreads := reads_run k workshop period steps
  generalize (fresh workshop period).run k steps = w at hsound hreads ⊢
  refine ⟨fun hnone l live hbridge hlive hahead => ?_, fun l live hbridge hlive => ?_,
    fun e => ?_, ?_, ?_⟩
  · have hone := hreads.live l live hbridge hlive
    simp only [tokens, hnone, hahead, List.filterMap_nil, List.count_nil] at hone
    omega
  · exact hreads.live l live hbridge hlive
  · have hone := hreads.one e
    rw [tokens] at hone
    omega
  · intro x hx packets live hlive hm hafter
    exact rearmed_of_run hsound.run hx hlive hm hafter
  · intro x hx e packets hm hother
    exact stale_of_run hsound.run hx hm hother

/-- An engine is replaced while the host holds the handler of its read, which is called
afterwards. -/
def overtaken : List WorldStep :=
  [.ask (.start Loop.complete), .take 0, .act, .act, .act, .ask (.start Loop.complete), .take 1,
    .act, .act, .act, .act, .act, .read 0 [[7]], .take 2]

/-- The packets are dropped, and the read for the engine that runs is still there. -/
theorem reading_overtaken :
    ((fresh 0 1).run Loop.answering.kind overtaken).reads = [3] ∧
    ((fresh 0 1).run Loop.answering.kind overtaken).channel.length = 0 ∧
    ((fresh 0 1).run Loop.answering.kind overtaken).running = some 1 ∧
    Reading ((fresh 0 1).run Loop.answering.kind overtaken) :=
  ⟨by decide, by decide, by decide, reading_run Loop.answering.kind 0 1 overtaken⟩

end World

end PacketTunnel.Bridge
