import PacketTunnel.Proofs.BridgeSessions
import PacketTunnel.Proofs.TrafficCount
import Mathlib.Data.List.Range

/-!
# Traffic

Every datagram that is handed to a session handle is on record with the engine that it came from.
The counters of a bridge are those of the engine of the latest start: the datagrams of this engine
whose completions told of success while it ran, each once, and the datagrams that were passed to it.
-/

namespace PacketTunnel.Bridge

open Session

variable {φ σ : Type}

/-- What was written, if a message is about the end of a write of the engine of a number that
succeeded. -/
def Item.success? (n : Nat) (item : Item) : Option Parcel :=
  match item.command with
  | .written _ (.ok ()) => item.parcel.filter (·.engine = some n)
  | _ => none

theorem Item.success?_eq_some {n : Nat} {item : Item} {p : Parcel} : item.success? n = some p ↔
    (∃ tag, item.command = .written tag (.ok ())) ∧ item.parcel = some p ∧ p.engine = some n := by
  rw [success?]
  split
  next tag heq => simp [heq, Option.filter_eq_some_iff]
  next hother =>
    simp only [reduceCtorEq, false_iff]
    rintro ⟨⟨tag, heq⟩, -⟩
    exact hother tag heq

/-- The write that a datagram was handed over with. -/
def Parcel.write (p : Parcel) : Nat × Packet × WriteTag := (p.generation, p.datagram, p.tag)

/-- Who sees different things in different places sees nothing twice. -/
theorem eq_of_nodup_filterMap {α β : Type} {look : α → Option β} {l : List α} {x y : α} {z : β}
    (h : (l.filterMap look).Nodup) (hx : x ∈ l) (hy : y ∈ l) (hxz : look x = some z)
    (hyz : look y = some z) : x = y := by
  have hsymm : Std.Symm fun x y : α => ∀ b, look x = some b → ∀ c, look y = some c → b ≠ c :=
    ⟨fun _ _ hne b hb c hc => (hne c hc b hb).symm⟩
  by_contra hxy
  exact (List.pairwise_filterMap.mp h).forall hx hy hxy z hxz z hyz rfl

namespace Actor

variable {k : Kind φ σ} {a : Actor φ σ} {m : Message} {t : Turn φ σ}

/-- A turn leaves the counters alone if it leaves no engine running, and so does a report of a
handle that is not the current one of its session. -/
theorem Turned.traffic_eq (h : a.Turned k m t) (hm : ∀ config, m ≠ .command (.start config))
    (hgoes : t.broken = false)
    (hquiet : t.actor.engine = none ∨ ∃ n, m = .notification n ∧ ¬a.table.Heeds n) :
    t.actor.traffic = a.traffic := by
  cases h with
  | started config => exact absurd rfl (hm config)
  | ignored | told | wrote | sent => rfl
  | stopped => exact traffic_stop k a
  | @fed live hengine packets =>
    rw [Turn.andThen]
    split <;> simp [Turn.done, traffic_talked]
  | ticked => simp [traffic_talked]
  | counted hengine =>
    rcases hquiet with hnone | ⟨n, heq, -⟩
    · exact absurd (hengine.symm.trans hnone) (Option.some_ne_none _)
    · cases heq
  | @heard live hengine n =>
    rcases hquiet with hnone | ⟨found, heq, hstale⟩
    · rcases htalk : k.talk ((a.brought n).map .tunnel) live.state with ⟨said, - | state⟩
      · simp [Turn.andThen, Turn.done, talked, htalk] at hgoes
      · simp [Turn.andThen, Turn.done, talked, htalk] at hnone
    · obtain rfl := Message.notification.inj heq
      have hnothing : a.brought n = [] := by
        rw [brought, Table.notify_of_not_heeds hstale]
        rfl
      simp [Turn.andThen, Turn.done, traffic_talked, hearing, hnothing, Traffic.receivedAll]

end Actor

namespace Loop

variable {k : Kind φ σ} {workshop : φ} {period : Nat} {record : List (Worked φ σ)}
  {last : Option (Loop φ σ)} {l : Loop φ σ} {x : Worked φ σ}

/-- The counters are left alone by a message that leaves no engine running, and by a report of a
handle that is not the current one of its session. -/
theorem Run.traffic_eq (h : Run k (fresh workshop period) record last) (hx : x ∈ record)
    (hafter : x.after = some l) (hquiet : l.actor.engine = none ∨
      ∃ n, x.message = .notification n ∧ ¬x.before.actor.table.Heeds n) :
    l.actor.traffic = x.before.actor.traffic := by
  obtain ⟨-, -, now, hworked⟩ := h.exists_before hx
  rw [hworked] at hafter
  obtain ⟨hactor, hgoes⟩ := actor_of_after hafter
  rw [hactor] at hquiet ⊢
  rcases x.message.start_or with ⟨config, heq⟩ | hm
  · rw [heq] at hquiet ⊢
    rcases hquiet with hnone | ⟨n, hn, -⟩
    · rcases x.before.actor.start_outcome k config with ⟨live, hsucceeds⟩ | hfails
      · exact absurd (hsucceeds.engine.symm.trans hnone) (Option.some_ne_none _)
      · exact hfails.traffic
    · cases hn
  · exact (Actor.turned_turn k x.before x.message).traffic_eq hm hgoes hquiet

/-- A bridge goes on after a turn that left its engine running, as its timer runs already. -/
theorem Settled.after_worked (h : l.Settled) {m : Message} (hlast : isLast m = false)
    (hgoes : (l.turn k m).broken = false) (hlive : (l.turn k m).actor.isLive = l.actor.isLive)
    (now : Nat) : ∃ next, (l.worked k now m).after = some next ∧
      next.actor = (l.turn k m).actor := by
  have hsettled : Settled { l with actor := (l.turn k m).actor, timer := l.timerAfter now m } := by
    have htimer : (l.timerAfter now m).isSome = l.timer.isSome := by
      cases m with
      | tick => simp [timerAfter]
      | command | notification => rfl
    rw [Settled, htimer, h, hlive]
  refine ⟨{ l with actor := (l.turn k m).actor, timer := l.timerAfter now m }, ?_, rfl⟩
  simp [worked, work, hgoes, hlast, hsettled.settle]

end Loop

namespace World

variable {k : Kind φ σ} {workshop : φ} {period : Nat} {w v next : World φ σ} {l : Loop φ σ}

/-- The datagrams that the engine of a number sent and whose completions told of success while it
ran. -/
def counted (w : World φ σ) (n : Nat) : List Parcel := (w.takenBy n).filterMap (Item.success? n)

/-- Where the datagrams are that were handed over. -/
structure Parcels (w : World φ σ) : Prop where
  /-- Each comes from the engine that its tag tells of. -/
  handed : ∀ p ∈ w.log.handed, ∃ n, p.engine = some n ∧
    (n, p.tag.epoch) ∈ openings (Loop.effectsOf w.log.record) ∧
      p.tag.length = p.datagram.length
  /-- So do those that are still to be handed over in this turn. -/
  ahead : ∀ x ∈ written w.ahead, ∃ l live, w.bridge = some l ∧ l.actor.engine = some live ∧
    x.2.2.epoch = live.epoch ∧ x.2.2.length = x.2.1.length
  /-- A message about the end of a write comes with what was written. -/
  items : ∀ item ∈ w.log.sent, ∀ tag result, item.command = .written tag result →
    ∃ p, item.parcel = some p ∧ p.tag = tag
  /-- What was handed over waits for the end of its write, has lost its completion, or was sent back
  with it. -/
  perm : w.log.handed.Perm (w.writes ++ w.log.lost ++ w.log.sent.filterMap Item.parcel)
  /-- They are what was written to session handles, but for what is still to be written. -/
  wrote : w.log.handed.map Parcel.write ++ written w.ahead =
    written (Loop.effectsOf w.log.record)
  /-- They are told apart. -/
  serials : w.log.handed.map Parcel.serial = List.range w.log.handed.length

namespace Parcels

theorem fresh (workshop : φ) (period : Nat) :
    (World.fresh workshop period : World φ σ).Parcels := by
  have hnone : ∀ x ∈ written [], ∃ l live,
      (World.fresh workshop period : World φ σ).bridge = some l ∧
        l.actor.engine = some live ∧ x.2.2.epoch = live.epoch ∧ x.2.2.length = x.2.1.length :=
    fun x hx => absurd hx List.not_mem_nil
  exact ⟨by simp [World.fresh], hnone, by simp [World.fresh], .refl _, rfl, rfl⟩

/-- A message may be sent that is not about the end of a write. -/
theorem send (h : w.Parcels) {c : Command} (hc : ∀ tag result, c ≠ .written tag result) :
    (w.send ⟨c, none⟩).Parcels := by
  refine ⟨h.handed, h.ahead, ?_, ?_, h.wrote, h.serials⟩
  · intro item hitem tag result hcommand
    rcases List.mem_append.mp hitem with hold | hnew
    · exact h.items item hold tag result hcommand
    · obtain rfl := List.mem_singleton.mp hnew
      exact absurd hcommand (hc tag result)
  · simpa [World.send] using h.perm

/-- A datagram is handed over. -/
theorem hand (h : w.Parcels) {generation : Nat} {datagram : Packet} {tag : WriteTag}
    {rest : List Effect} (hahead : w.ahead = .session (.write generation datagram tag) :: rest)
    {live : Live σ} (hrunning : w.running = some live.number)
    (hopened : (live.number, live.epoch) ∈ openings (Loop.effectsOf w.log.record))
    (hepoch : tag.epoch = live.epoch) (hlength : tag.length = datagram.length) :
    (({ w with ahead := rest } : World φ σ).hand generation datagram tag).Parcels := by
  have hcons : written w.ahead = (generation, datagram, tag) :: written rest := by rw [hahead]; rfl
  refine ⟨?_, ?_, h.items, ?_, ?_, ?_⟩
  · intro p hp
    rcases List.mem_append.mp hp with hold | hnew
    · exact h.handed p hold
    · obtain rfl := List.mem_singleton.mp hnew
      exact ⟨live.number, hrunning, hepoch ▸ hopened, hlength⟩
  · exact fun x hx => h.ahead x (hcons ▸ List.mem_cons_of_mem _ hx)
  · refine List.perm_iff_count.mpr fun p => ?_
    have hcount := h.perm.count_eq p
    simp only [World.hand, List.count_append] at hcount ⊢
    omega
  · simp [World.hand, Parcel.write, ← h.wrote, hcons]
  · simp [World.hand, h.serials, List.range_succ]

/-- A turn begins. -/
theorem turn (hsound : w.Sound k workshop period) (h : w.Parcels) (hbridge : w.bridge = some l)
    (hahead : w.ahead = []) {m : Message} {now : Nat} (hrecord : v.log.record = w.log.record)
    (hhanded : v.log.handed = w.log.handed) (hwrites : v.writes = w.writes)
    (hlost : v.log.lost = w.log.lost) (hsent : v.log.sent = w.log.sent) :
    (v.work k l now m).Parcels := by
  have hrun := hsound.run
  rw [hbridge] at hrun
  refine ⟨?_, ?_, ?_, ?_, ?_, ?_⟩
  · intro p hp
    obtain ⟨n, hengine, hopened, hlength⟩ := h.handed p (hhanded ▸ hp)
    refine ⟨n, hengine, ?_, hlength⟩
    rw [record_work, hrecord, Loop.effectsOf_append, openings_append]
    exact List.mem_append_left _ hopened
  · intro x hx
    have hturn : written (l.worked k now m).effects = written (l.turn k m).effects := by
      rw [written, written, sessionsOf, sessionsOf, Loop.filterMap_worked fun _ => rfl]
    have hx : x ∈ written (l.turn k m).effects := hturn ▸ hx
    rcases (Actor.turned_turn k l m).written with ⟨hnone, -⟩ |
      ⟨endpoint, datagram, live, rfl, hlive, hafter, hgoes, heffects⟩
    · rw [hnone] at hx
      exact absurd hx List.not_mem_nil
    · -- a bridge that writes goes on, with the engine that put the datagram out
      obtain ⟨y, -, -, hwritten⟩ := hrun.sent endpoint datagram
      rw [written, heffects, hwritten, List.mem_singleton] at hx
      have hsame : (l.turn k (.command (.emitted l.actor.epoch
          (.datagram endpoint datagram)))).actor.isLive = l.actor.isLive := by
        simp [Actor.isLive, hafter, hlive]
      obtain ⟨l', hnext, hactor⟩ := hrun.settled.after_worked rfl hgoes hsame now
      have hepoch := ((hsound.conversation hbridge).live live hlive).2
      subst hx
      exact ⟨l', live, hnext, hactor ▸ hafter, hepoch.symm, rfl⟩
  · intro item hitem
    exact h.items item (hsent ▸ hitem)
  · simpa only [World.work, hhanded, hwrites, hlost, hsent] using h.perm
  · rw [record_work, hrecord, Loop.effectsOf_append, Loop.effectsOf_singleton, written_append,
      ← h.wrote, hahead]
    simp [World.work, hhanded, written, sessionsOf, Session.writes]
  · simpa only [World.work, hhanded] using h.serials

/-- Whatever happens, all of them are accounted for. -/
theorem step (hsound : w.Sound k workshop period) (h : w.Parcels) (hnext : Happens k w next) :
    next.Parcels := by
  cases hnext with
  | idle => exact h
  | asked request => exact h.send fun tag result => by cases request <;> simp [Request.command]
  | @acted x rest hahead =>
    have hcons : written w.ahead = written [x] ++ written rest := by
      rw [hahead, ← written_append]
      rfl
    have hrest (hx : written [x] = []) : ({ w with ahead := rest } : World φ σ).Parcels := by
      rw [hx, List.nil_append] at hcons
      exact ⟨h.handed, hcons ▸ h.ahead, h.items, h.perm, hcons ▸ h.wrote, h.serials⟩
    cases x with
    | post c =>
      obtain ⟨epoch, emission, rfl⟩ := hsound.posting c (hahead ▸ List.mem_cons_self)
      exact (hrest rfl).send fun _ _ heq => by cases heq
    | session effect =>
      cases effect with
      | write generation datagram tag =>
        have hmem : (generation, datagram, tag) ∈ written w.ahead := by
          rw [hcons]
          exact List.mem_append_left _ List.mem_cons_self
        obtain ⟨l, live, hbridge, hlive, hepoch, hlength⟩ := h.ahead _ hmem
        have hrunning : w.running = some live.number := by simp [running, hbridge, hlive]
        have hopened := ((hsound.conversation hbridge).live live hlive).1
        exact h.hand hahead hrunning hopened hepoch hlength
      | create | upgrade | cancel => exact hrest rfl
    | readHost =>
      have hsame := hrest rfl
      exact ⟨hsame.handed, hsame.ahead, hsame.items, hsame.perm, hsame.wrote, hsame.serials⟩
    | engine | writeHost | started | traffic | sessions => exact hrest rfl
  | took hbridge hahead => exact h.turn hsound hbridge hahead rfl rfl rfl rfl rfl
  | told hbridge hahead => exact h.turn hsound hbridge hahead rfl rfl rfl rfl rfl
  | @read index epoch hread packets =>
    have hread : ({ w with reads := w.reads.eraseIdx index } : World φ σ).Parcels :=
      ⟨h.handed, h.ahead, h.items, h.perm, h.wrote, h.serials⟩
    exact hread.send fun _ _ heq => by cases heq
  | discarded => exact ⟨h.handed, h.ahead, h.items, h.perm, h.wrote, h.serials⟩
  | @finished index parcel hwrite result =>
    refine ⟨h.handed, h.ahead, ?_, ?_, h.wrote, h.serials⟩
    · intro item hitem tag found hcommand
      rcases List.mem_append.mp hitem with hold | hnew
      · exact h.items item hold tag found hcommand
      · obtain rfl := List.mem_singleton.mp hnew
        obtain ⟨rfl, -⟩ := Command.written.inj hcommand
        exact ⟨parcel, rfl, rfl⟩
    · refine List.perm_iff_count.mpr fun p => ?_
      have hcount := h.perm.count_eq p
      have herase := (perm_eraseIdx hwrite).count_eq p
      simp only [World.send, List.count_append, List.filterMap_append, List.filterMap_cons,
        List.filterMap_nil, List.count_cons, List.count_nil] at hcount herase ⊢
      omega
  | @lost index parcel hwrite =>
    refine ⟨h.handed, h.ahead, h.items, ?_, h.wrote, h.serials⟩
    refine List.perm_iff_count.mpr fun p => ?_
    have hcount := h.perm.count_eq p
    have herase := (perm_eraseIdx hwrite).count_eq p
    simp only [List.count_append, List.count_cons, List.count_nil] at hcount herase ⊢
    omega

theorem nodup (h : w.Parcels) : w.log.handed.Nodup :=
  .of_map Parcel.serial (h.serials ▸ List.nodup_range)

/-- No completion is sent twice. -/
theorem nodup_sent (h : w.Parcels) : (w.log.sent.filterMap Item.parcel).Nodup :=
  (List.nodup_append.mp (h.perm.nodup_iff.mp h.nodup)).2.1

theorem mem_handed (h : w.Parcels) {item : Item} (hitem : item ∈ w.log.sent) {p : Parcel}
    (hp : item.parcel = some p) : p ∈ w.log.handed := by
  have hsent := List.mem_filterMap.mpr ⟨item, hitem, hp⟩
  exact h.perm.mem_iff.mpr (List.mem_append_right _ hsent)

end Parcels

theorem mem_takenBy {n : Nat} {item : Item} :
    item ∈ w.takenBy n ↔ (some n, item) ∈ w.log.taken := by
  simp [takenBy]

/-- Messages that were taken were sent. -/
theorem Sound.sent_of_taken (h : w.Sound k workshop period) {who : Option Nat} {item : Item}
    (hitem : (who, item) ∈ w.log.taken) : item ∈ w.log.sent := by
  rw [← h.order]
  exact List.mem_append_left _ (List.mem_map.mpr ⟨_, hitem, rfl⟩)

/-- A datagram is counted if it was handed over while the engine ran, and its completion told of
success while the engine still did. -/
theorem mem_counted (hsound : w.Sound k workshop period) (hparcels : w.Parcels) {n : Nat}
    {p : Parcel} : p ∈ w.counted n ↔ p ∈ w.log.handed ∧ p.engine = some n ∧
      (some n, ⟨.written p.tag (.ok ()), some p⟩) ∈ w.log.taken := by
  simp only [counted, List.mem_filterMap, Item.success?_eq_some, mem_takenBy]
  constructor
  · rintro ⟨⟨command, parcel⟩, htaken, ⟨tag, rfl⟩, rfl, hengine⟩
    have hsent := hsound.sent_of_taken htaken
    obtain ⟨found, heq, rfl⟩ := hparcels.items _ hsent tag _ rfl
    obtain rfl := Option.some.inj heq
    exact ⟨hparcels.mem_handed hsent rfl, hengine, htaken⟩
  · rintro ⟨-, hengine, htaken⟩
    exact ⟨_, htaken, ⟨_, rfl⟩, rfl, hengine⟩

/-- No datagram is counted twice. -/
theorem nodup_counted (hsound : w.Sound k workshop period) (hparcels : w.Parcels) (n : Nat) :
    (w.counted n).Nodup := by
  have hfilter : w.counted n = ((w.takenBy n).filter fun item => (item.success? n).isSome).filterMap
      Item.parcel := by
    rw [counted, List.filterMap_filter]
    refine List.filterMap_congr fun item _ => ?_
    rcases hitem : item.success? n with _ | p
    · simp
    · simp [(Item.success?_eq_some.mp hitem).2.1]
  have htaken : (w.takenBy n).Sublist w.log.sent := by
    rw [← hsound.order]
    exact (List.filter_sublist.map Prod.snd).trans (List.sublist_append_left _ _)
  rw [hfilter]
  exact hparcels.nodup_sent.sublist ((List.filter_sublist.trans htaken).filterMap _)

/-- A datagram whose completion was lost is not counted. -/
theorem not_mem_counted_of_lost (hsound : w.Sound k workshop period) (hparcels : w.Parcels)
    {p : Parcel} (hlost : p ∈ w.log.lost) (n : Nat) : p ∉ w.counted n := by
  intro hcounted
  obtain ⟨-, -, htaken⟩ := (mem_counted hsound hparcels).mp hcounted
  have hsent : p ∈ w.log.sent.filterMap Item.parcel :=
    List.mem_filterMap.mpr ⟨_, hsound.sent_of_taken htaken, rfl⟩
  have hnodup := hparcels.perm.nodup_iff.mp hparcels.nodup
  exact (List.nodup_append.mp hnodup).2.2 p (List.mem_append_right _ hlost) p hsent rfl

/-- Nor is one that is known to have failed, or whose completion came when its engine did not run
any more. -/
theorem not_mem_counted_of_taken (hsound : w.Sound k workshop period) (hparcels : w.Parcels)
    {who : Option Nat} {c : Command} {p : Parcel} (htaken : (who, ⟨c, some p⟩) ∈ w.log.taken)
    (hbad : who ≠ p.engine ∨ ∀ tag, c ≠ .written tag (.ok ())) (n : Nat) : p ∉ w.counted n := by
  intro hcounted
  obtain ⟨-, hengine, hgood⟩ := (mem_counted hsound hparcels).mp hcounted
  have hnodup : (w.log.taken.filterMap fun t => t.2.parcel).Nodup := by
    have hsent := hparcels.nodup_sent
    rw [← hsound.order, List.filterMap_append, List.filterMap_map] at hsent
    exact (List.nodup_append.mp hsent).1
  obtain ⟨rfl, hitem⟩ := Prod.mk.inj (eq_of_nodup_filterMap hnodup htaken hgood rfl rfl)
  rcases hbad with hwho | hresult
  · exact hwho hengine.symm
  · exact hresult p.tag (Item.mk.inj hitem).1

/-- What was counted while the engine of a number ran are the datagrams that it sent. -/
theorem lengths_counted (hsound : w.Sound k workshop period) (hmail : w.Mail)
    (hparcels : w.Parcels) (n : Nat) :
    (lifeOf n w.log.record).filterMap Worked.counted? =
      (w.counted n).map (·.datagram.length) := by
  have hrun := hsound.run
  rcases hlife : lifeOf n w.log.record with _ | ⟨x, rest⟩
  · have hcommands := hmail.commands n
    rw [hlife] at hcommands
    have hnone : w.takenBy n = [] := List.map_eq_nil_iff.mp hcommands.symm
    simp [counted, hnone]
  · have hx : x ∈ lifeOf n w.log.record := by simp [hlife]
    obtain ⟨live, -, -, -, hopen⟩ := hrun.opened_of_life hx
    rw [← hlife]
    have hlive : (lifeOf n w.log.record).filterMap Worked.counted? =
        ((lifeOf n w.log.record).filterMap Worked.command?).filterMap
          (Command.written? live.epoch) := by
      rw [List.filterMap_filterMap]
      refine List.filterMap_congr fun y hy => ?_
      obtain ⟨-, -, -, -, hepoch⟩ := hrun.life hy hopen
      rw [Worked.counted?, hepoch, Worked.command?]
      cases y.message <;> rfl
    rw [hlive, hmail.commands, counted, List.filterMap_map, List.map_filterMap]
    refine List.filterMap_congr fun item hitem => ?_
    obtain ⟨command, parcel⟩ := item
    have hsent := hsound.sent_of_taken (mem_takenBy.mp hitem)
    cases command with
    | written tag result =>
      rcases result with reason | ⟨⟩
      · rfl
      · -- the tag has the epoch of the engine just if the engine sent the datagram
        obtain ⟨p, rfl, rfl⟩ := hparcels.items _ hsent tag _ rfl
        obtain ⟨m, hengine, hopened, hlength⟩ := hparcels.handed p (hparcels.mem_handed hsent rfl)
        obtain ⟨a, hall, -⟩ := hrun.conversation
        have hiff : m = n ↔ p.tag.epoch = live.epoch := hall.fst_eq_iff hopened hopen
        by_cases hm : m = n <;>
          simp [Command.written?, Item.success?, hengine, hlength, hm, ← hiff, Option.filter]
    | start | stop | traffic | sessions | hostPackets | emitted | shutdown => rfl

/-- Whatever happens around a bridge, the datagrams that it hands over are accounted for. -/
theorem parcels_run (k : Kind φ σ) (workshop : φ) (period : Nat) (steps : List WorldStep) :
    ((fresh workshop period).run k steps).Parcels := by
  have hboth : ((fresh workshop period).run k steps).Sound k workshop period ∧
      ((fresh workshop period).run k steps).Parcels :=
    run_kept (I := fun w => w.Sound k workshop period ∧ w.Parcels)
      (fun h hnext => ⟨h.1.step hnext, h.2.step h.1 hnext⟩)
      ⟨.fresh k workshop period, .fresh workshop period⟩ steps
  exact hboth.2

/-- What the counters of a bridge tell. -/
structure Counting (w : World φ σ) : Prop where
  /-- Once a start has succeeded, they tell of the engine of the latest one that did: how many of
  the datagrams that it sent count, how many were passed to it, and how long they all are. -/
  total : ∀ l n config, w.bridge = some l → lastStart w.log.record = some (n, config) →
    l.actor.traffic = .of ((w.counted n).map (·.datagram.length))
      ((received n w.log.record).map List.length)
  /-- This is the engine that runs, if one does. -/
  latest : ∀ l live, w.bridge = some l → l.actor.engine = some live →
    ∃ config, lastStart w.log.record = some (live.number, config)
  /-- The datagrams that were handed to sessions are those that the bridge wrote, but for what is
  still to be written in this turn. -/
  handed : w.log.handed.map Parcel.write ++ written w.ahead =
    written (Loop.effectsOf w.log.record)
  /-- A datagram counts as sent by an engine just if it was handed to a session while the engine
  ran, and its completion told of success and was taken while the engine still ran. -/
  sent : ∀ n p, p ∈ w.counted n ↔ p ∈ w.log.handed ∧ p.engine = some n ∧
    (some n, ⟨.written p.tag (.ok ()), some p⟩) ∈ w.log.taken
  /-- None counts twice, -/
  once : ∀ n, (w.counted n).Nodup
  /-- none counts whose completion was taken when its engine did not run or told of a failure, -/
  late : ∀ n p who c, (who, ⟨c, some p⟩) ∈ w.log.taken →
    (who ≠ p.engine ∨ ∀ tag, c ≠ .written tag (.ok ())) → p ∉ w.counted n
  /-- and none counts whose completion was dropped. -/
  lost : ∀ n p, p ∈ w.log.lost → p ∉ w.counted n
  /-- A report of a handle that is not the current one of its session changes nothing, -/
  stale : ∀ x ∈ w.log.record, ∀ l n, x.message = .notification n →
    ¬x.before.actor.table.Heeds n → x.after = some l → l.actor.traffic = x.before.actor.traffic
  /-- and neither does a turn that leaves no engine running. -/
  still : ∀ x ∈ w.log.record, ∀ l, x.after = some l → l.actor.engine = none →
    l.actor.traffic = x.before.actor.traffic

/-- Whatever happens around a bridge and whatever its engines do, the counters tell of the engine of
the latest start and of nothing else. -/
theorem counting_run (k : Kind φ σ) (workshop : φ) (period : Nat) (steps : List WorldStep) :
    Counting ((fresh workshop period).run k steps) := by
  have hsound := sound_run k workshop period steps
  have hmail := mail_run k workshop period steps
  have hparcels := parcels_run k workshop period steps
  generalize (fresh workshop period).run k steps = w at hsound hmail hparcels ⊢
  have hruns {l : Loop φ σ} (hbridge : w.bridge = some l) :
      Loop.Run k (.fresh workshop period) w.log.record (some l) := hbridge ▸ hsound.run
  refine ⟨fun l n config hbridge hlatest => ?_, fun l live hbridge hlive => ?_, hparcels.wrote,
    fun n p => mem_counted hsound hparcels, nodup_counted hsound hparcels, ?_, ?_, ?_, ?_⟩
  · rw [(hruns hbridge).traffic hlatest, lengths_counted hsound hmail hparcels]
  · obtain ⟨config, hlatest, -⟩ := (hruns hbridge).latest (P := fun _ _ => True)
      (fun _ => trivial) (fun _ _ => trivial) hlive
    exact ⟨config, hlatest⟩
  · intro n p who c htaken hbad
    exact not_mem_counted_of_taken hsound hparcels htaken hbad n
  · exact fun n p hlost => not_mem_counted_of_lost hsound hparcels hlost n
  · intro x hx l n hm hstale hafter
    exact hsound.run.traffic_eq hx hafter (.inr ⟨n, hm, hstale⟩)
  · intro x hx l hafter hnone
    exact hsound.run.traffic_eq hx hafter (.inl hnone)

/-- Two engines send two datagrams each. For the first engine one write ends before it is replaced
and one afterwards, and a report for it is too late; for the second one a write fails. -/
def delaying : List WorldStep :=
  [.ask (.start Loop.complete), .take 0, .act, .act, .act,
    .read 0 [[7], [8, 8]], .take 1, .act, .act, .act, .act, .act,
    .take 1, .act, .act, .take 1, .act, .finish 0 (.ok ()), .take 2,
    .ask (.start Loop.complete), .take 3, .act, .act, .act, .act, .act, .act,
    .finish 0 (.ok ()), .take 4, .hear 5 ⟨1, 1, .datagrams [[9, 9, 9]]⟩,
    .read 1 [[4], [5, 5, 5]], .take 6, .act, .act, .act, .act, .act,
    .take 6, .act, .act, .take 6, .act, .finish 0 (.error "no route"), .take 7,
    .finish 0 (.ok ()), .take 8, .hear 9 ⟨2, 2, .datagrams [[9, 9]]⟩]

/-- What is left is one datagram of the second engine, and one that was passed to it. -/
theorem counting_delaying :
    ((fresh 0 1).run Loop.answering.kind delaying).bridge.map (·.actor.traffic) =
      some ⟨3, 2, 1, 1⟩ ∧
    ((fresh 0 1).run Loop.answering.kind delaying).log.handed.length = 4 ∧
    Counting ((fresh 0 1).run Loop.answering.kind delaying) :=
  ⟨by decide, by decide, counting_run Loop.answering.kind 0 1 delaying⟩

end World

end PacketTunnel.Bridge
