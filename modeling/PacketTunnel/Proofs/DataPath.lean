import PacketTunnel.Proofs.BridgeSessions
import PacketTunnel.Proofs.TrafficCount

/-!
# The path of packets

Packets from the host and datagrams from the network are handed to the engine in the order in which
the bridge takes them up. What the engine puts out comes back through the channel that carries
requests and packets from the host too, and waits there. So what is written to the host and to
sessions while an engine runs are the first of the things that it put out, in the order in which it
did, and all of them whenever nothing waits.
-/

namespace PacketTunnel

/-- The datagrams that an event is about. -/
def Session.Event.incoming : Event → List Packet
  | .datagrams batch => batch
  | .state _ | .betterPath | .viable _ | .readError _ => []

/-- A report brings the datagrams that it is about if it is by the current handle of a session. -/
theorem Session.Table.Indexed.datagrams_notify {κ : Type} {t : Table} (h : t.Indexed)
    (n : Notification) :
    (t.notify (κ := κ) n).2.1.getD [] = if t.Heeds n then n.event.incoming else [] := by
  by_cases hheeds : t.Heeds n
  · obtain ⟨found, he, hid, hgeneration⟩ := hheeds
    obtain ⟨session, generation, event⟩ := n
    obtain rfl : found.id = session := hid
    obtain rfl : found.generation = generation := hgeneration
    have hheeds : t.Heeds ⟨found.id, found.generation, event⟩ := ⟨found, he, rfl, rfl⟩
    rw [h.notify_of_mem he, if_pos hheeds]
    rcases event with (_ | _ | _ | _) | _ | viable | datagrams | reason <;> rfl
  · rw [notify_of_not_heeds hheeds, if_neg hheeds]
    rfl

namespace Bridge

open Session

variable {φ σ : Type}

/-- The packet from the host that a call hands over. -/
def EngineCall.host? : EngineCall → Option Packet
  | .host packet => some packet
  | .tunnel _ | .init _ _ | .tick | .shutdown | .drop => none

/-- The packet for the host that an engine put out, with its family. -/
def Emission.packet? : Emission → Option (Packet × Family)
  | .packet family bytes => some (bytes, family)
  | .datagram _ _ => none

/-- The datagram for the network that an engine put out, as it is to be sent to its endpoint. -/
def Emission.datagram? : Emission → Option (Option Net.Endpoint × Packet)
  | .datagram endpoint bytes => some (some endpoint, bytes)
  | .packet _ _ => none

/-- What is written to the host with an effect. -/
def Effect.hostWrite? : Effect → Option (Packet × Family)
  | .writeHost packet family => some (packet, family)
  | _ => none

/-- What is written to the host, in order. -/
def hostWrites (effects : List Effect) : List (Packet × Family) :=
  effects.filterMap Effect.hostWrite?

/-- The datagrams that are written to sessions, each with the endpoint that its handle was set up
for, after all that was done. -/
def sends (done effects : List Effect) : List (Option Net.Endpoint × Packet) :=
  (written effects).map fun (generation, datagram, _) => (endpointOf? done generation, datagram)

/-- The datagrams that a turn was about, if the current handle of a session reported them. -/
def Worked.heeded (x : Worked φ σ) : List Packet :=
  match x.message with
  | .notification n => if x.before.actor.table.Heeds n then n.event.incoming else []
  | .command _ | .tick => []

/-- Whether engines of a kind do not break. -/
def Kind.Lasts (k : Kind φ σ) : Prop := ∀ call s, (k.react call s).next ≠ none

theorem Kind.Lasts.talk {k : Kind φ σ} (h : k.Lasts) (calls : List EngineCall) (s : σ) :
    (k.talk calls s).2 ≠ none := by
  induction calls generalizing s with
  | nil => simp
  | cons call rest ih =>
    obtain ⟨next, hnext⟩ := Option.ne_none_iff_exists'.mp (h call s)
    rw [talk_cons_some hnext]
    exact ih next

/-- An engine is told the first of the calls that are handed to it, -/
theorem Conversed.callsOn_prefix {k : Kind φ σ} {n e : Nat} {params : EngineParams}
    {done : List Effect} {handed : List EngineCall} {left : Option σ}
    (h : Conversed k n e params done handed left) : callsOn n done <+: handed := by
  cases h with
  | ran init told => exact told ▸ (k.talk_calls handed _).1
  | failed init setup_ne handed_eq told => simp [told]

/-- and all of them if something is left of it or it cannot break. -/
theorem Conversed.callsOn_eq {k : Kind φ σ} {n e : Nat} {params : EngineParams}
    {done : List Effect} {handed : List EngineCall} {left : Option σ}
    (h : Conversed k n e params done handed left) (hlasts : left ≠ none ∨ k.Lasts) :
    callsOn n done = handed := by
  cases h with
  | @ran workshop next output s init told answered =>
    have hleft : (k.talk handed s).2 ≠ none := hlasts.elim id fun h => h.talk handed s
    rw [told, (k.talk_calls handed s).2 hleft]
  | failed init setup_ne handed_eq told => rw [told, handed_eq]

theorem blind_hostWrite : Blind Effect.hostWrite? := ⟨fun _ _ => rfl, fun _ => rfl⟩

namespace Actor

variable {k : Kind φ σ} {a : Actor φ σ} {m : Message} {t : Turn φ σ}

/-- What the engine that runs put out, if a message is about it. -/
def passed? (a : Actor φ σ) : Message → Option Emission
  | .command c => (a.current? a.epoch).bind fun _ => Effect.posted? a.epoch (.post c)
  | .notification _ | .tick => none

theorem hostWrites_sessions (effects : List (Session.Effect WriteTag)) :
    hostWrites (effects.map .session) = [] := by
  simp [hostWrites, Effect.hostWrite?]

theorem passed?_of_live {live : Live σ} (h : a.engine = some live) (c : Command) :
    a.passed? (.command c) = Effect.posted? a.epoch (.post c) := by
  simp [passed?, current?_eq_some h]

theorem passed?_of_idle (h : a.engine = none) (m : Message) : a.passed? m = none := by
  rcases m with c | n | - <;> simp [passed?, current?_eq_none h]

/-- A packet is written to the host when the engine that runs has put it out, and only then. -/
theorem Turned.hostWrites (h : a.Turned k m t) :
    Bridge.hostWrites t.effects = ((a.passed? m).bind Emission.packet?).toList := by
  have haside : Bridge.hostWrites t.effects = Bridge.hostWrites (a.aside m) :=
    h.filterMap_eq blind_hostWrite (fun _ => rfl) fun _ => rfl
  have hcancels : Bridge.hostWrites a.cancels = [] := hostWrites_sessions _
  rw [haside]
  rcases m with c | n | -
  · cases c with
    | emitted epoch emission =>
      by_cases hepoch : epoch = a.epoch
      · subst hepoch
        rcases hengine : a.engine with _ | live
        · cases emission <;>
            simp [aside, passed?_of_idle hengine, current?_eq_none hengine, Bridge.hostWrites]
        · cases emission with
          | packet family packet =>
            simp [aside, passed?_of_live hengine, current?_eq_some hengine, Effect.posted?,
              Emission.packet?, Bridge.hostWrites, Effect.hostWrite?]
          | datagram endpoint datagram =>
            simp [aside, passed?_of_live hengine, current?_eq_some hengine, Effect.posted?,
              Emission.packet?, hostWrites_sessions]
      · cases emission <;>
          simp [aside, passed?, current?, Effect.posted?, hepoch, Bridge.hostWrites]
    | start | stop | shutdown => simp [aside, passed?, Effect.posted?, hcancels]
    | traffic | sessions | hostPackets | written =>
      simp [aside, passed?, Effect.posted?, Bridge.hostWrites, Effect.hostWrite?]
  · rcases hengine : a.engine with _ | live <;>
      simp [aside, isLive, hengine, passed?, heeding, Bridge.hostWrites, Effect.hostWrite?]
  · rfl

theorem passed?_eq_some {emission : Emission} : a.passed? m = some emission ↔
    a.engine ≠ none ∧ m = .command (.emitted a.epoch emission) := by
  constructor
  · intro h
    obtain ⟨c, rfl⟩ : ∃ c, m = .command c := by
      rcases m with c | n | -
      · exact ⟨c, rfl⟩
      · cases h
      · cases h
    rcases hengine : a.engine with _ | live
    · simp [passed?_of_idle hengine] at h
    · rw [passed?_of_live hengine] at h
      cases c with
      | emitted epoch found =>
        simp only [Effect.posted?, Option.ite_none_right_eq_some, Option.some.injEq] at h
        obtain ⟨rfl, rfl⟩ := h
        simp
      | start | stop | traffic | sessions | hostPackets | written | shutdown => cases h
  · rintro ⟨hruns, rfl⟩
    obtain ⟨live, hengine⟩ := Option.ne_none_iff_exists'.mp hruns
    simp [passed?_of_live hengine, Effect.posted?]

/-- Packets from the host are handed over when they were read in the current epoch. -/
theorem calls_host (a : Actor φ σ) (m : Message) : (a.calls m).filterMap EngineCall.host? =
    match m with
    | .command (.hostPackets epoch packets) => if epoch = a.epoch then packets else []
    | _ => [] := by
  have hhost (packets : List Packet) :
      (packets.map EngineCall.host).filterMap EngineCall.host? = packets := by
    simp [List.filterMap_map, Function.comp_def, EngineCall.host?]
  rcases m with c | n | -
  · cases c with
    | hostPackets epoch packets => by_cases h : epoch = a.epoch <;> simp [calls, h, hhost]
    | start | stop | traffic | sessions | emitted | written | shutdown => rfl
  · simp [calls, EngineCall.host?]
  · rfl

/-- Datagrams from the network are handed over when a report brings them. -/
theorem calls_tunnel (a : Actor φ σ) (m : Message) : (a.calls m).filterMap EngineCall.tunnel? =
    match m with
    | .notification n => a.brought n
    | _ => [] := by
  rcases m with c | n | -
  · cases c with
    | hostPackets epoch packets =>
      by_cases h : epoch = a.epoch <;> simp [calls, h, EngineCall.tunnel?]
    | start | stop | traffic | sessions | emitted | written | shutdown => rfl
  · exact filterMap_tunnel (a.brought n)
  · rfl

end Actor

namespace Loop

variable {k : Kind φ σ} {workshop : φ} {period : Nat} {record before after : List (Worked φ σ)}
  {last : Option (Loop φ σ)} {l : Loop φ σ} {x : Worked φ σ} {n e : Nat}

theorem hostWrites_effectsOf (record : List (Worked φ σ)) :
    hostWrites (effectsOf record) = record.flatMap fun x => hostWrites x.effects :=
  List.filterMap_flatMap

theorem sends_effectsOf (done : List Effect) (record : List (Worked φ σ)) :
    sends done (effectsOf record) = record.flatMap fun x => sends done x.effects := by
  induction record with
  | nil => rfl
  | cons x rest ih =>
    rw [effectsOf_cons, List.flatMap_cons, ← ih, sends, written_append, List.map_append]
    rfl

theorem Run.brought_eq (h : Run k (fresh workshop period) record (some l)) (n : Notification) :
    l.actor.brought n = if l.actor.table.Heeds n then n.event.incoming else [] := by
  obtain ⟨calls, hhistory, -⟩ := h.linked
  exact hhistory.indexed.datagrams_notify n

/-- What an engine is handed of datagrams from the network. -/
theorem Run.handedTo_tunnel (h : Run k (fresh workshop period) record last) (n : Nat) :
    (handedTo n record).filterMap EngineCall.tunnel? = (lifeOf n record).flatMap Worked.heeded := by
  rw [handedTo, List.filterMap_flatMap]
  refine List.flatMap_congr fun x hx => ?_
  obtain ⟨before, hbefore, -⟩ := h.exists_before (mem_lifeOf.mp hx).1
  rw [Actor.calls_tunnel, Worked.heeded]
  rcases x.message with c | n | -
  · rfl
  · exact hbefore.brought_eq n
  · rfl

/-- What is written to the host in a turn of a run. -/
theorem Run.hostWrites_of_mem (h : Run k (fresh workshop period) record last) (hx : x ∈ record) :
    hostWrites x.effects = ((x.before.actor.passed? x.message).bind Emission.packet?).toList := by
  obtain ⟨-, -, now, hworked⟩ := h.exists_before hx
  have hturn : hostWrites x.effects = hostWrites (x.before.turn k x.message).effects := by
    rw [hworked]
    exact filterMap_worked (fun _ => rfl) k x.before now x.message
  rw [hturn, (Actor.turned_turn k x.before x.message).hostWrites]

/-- What is sent in a turn of a run goes to handles that were set up for the endpoints. -/
theorem Run.sends_of_mem (h : Run k (fresh workshop period) record last) (hx : x ∈ record) :
    sends (effectsOf record) x.effects =
      ((x.before.actor.passed? x.message).bind Emission.datagram?).toList := by
  obtain ⟨before, after, rfl⟩ := List.append_of_mem hx
  obtain ⟨hbefore, -, now, hworked⟩ := h.at_message
  have hsessions : sessionsOf x.effects = sessionsOf (x.before.turn k x.message).effects := by
    rw [hworked]
    exact filterMap_worked (fun _ => rfl) k x.before now x.message
  have hwritten : written x.effects = written (x.before.turn k x.message).effects :=
    congrArg Session.writes hsessions
  -- a handle that was set up before the turn or in it is known ever after
  rcases (Actor.turned_turn k x.before x.message).written with ⟨hnone, hidle⟩ |
    ⟨endpoint, datagram, live, hm, hlive, -, -, hsending⟩
  · have hpassed : (x.before.actor.passed? x.message).bind Emission.datagram? = none := by
      rcases hpassed : x.before.actor.passed? x.message with
        _ | ⟨endpoint, datagram⟩ | ⟨family, packet⟩
      · rfl
      · obtain ⟨hruns, hm⟩ := Actor.passed?_eq_some.mp hpassed
        exact absurd (hidle endpoint datagram hm) hruns
      · rfl
    simp [sends, hwritten, hnone, hpassed]
  · have hpassed : x.before.actor.passed? x.message = some (.datagram endpoint datagram) :=
      Actor.passed?_eq_some.mpr ⟨by simp [hlive], hm⟩
    obtain ⟨y, rfl, hmade, hwrites⟩ := hbefore.sent endpoint datagram
    have hthere : y ∈ made (sessionsOf (effectsOf (before ++ x :: after))) := by
      rw [effectsOf_append, effectsOf_cons, sessionsOf_append, sessionsOf_append, hsessions,
        hsending, ← List.append_assoc, made_append]
      exact List.mem_append_left _ hmade
    have hone : written x.effects =
        [(y.generation, datagram, ⟨x.before.actor.epoch, datagram.length⟩)] := by
      rw [hwritten, written, hsending, hwrites]
    simp [sends, hone, hpassed, Emission.datagram?, h.endpointOf?_eq hthere]

end Loop

namespace World

variable {k : Kind φ σ} {workshop : φ} {period : Nat} {w : World φ σ} {n e : Nat}
  {params : EngineParams}

/-- What is seen of the turns of an engine is seen of the messages that it has taken, if every turn
shows what the message shows that it is about. -/
theorem Mail.flatMap_life {α β : Type} (h : w.Mail) {look : Command → Option α}
    {part : α → List β} {f : Worked φ σ → List β}
    (hf : ∀ x ∈ lifeOf n w.log.record, f x = (x.command?.bind look).toList.flatMap part) :
    (lifeOf n w.log.record).flatMap f =
      ((w.takenBy n).filterMap fun item => look item.command).flatMap part := by
  have hlook : ((w.takenBy n).filterMap fun item => look item.command) =
      (lifeOf n w.log.record).flatMap fun x => (x.command?.bind look).toList := by
    rw [← List.filterMap_eq_flatMap_toList, ← List.filterMap_filterMap, h.commands,
      List.filterMap_map]
    rfl
  rw [hlook, List.flatMap_assoc]
  exact List.flatMap_congr hf

/-- What an engine is handed of packets from the host. -/
theorem Sound.handedTo_host (h : w.Sound k workshop period) (hmail : w.Mail)
    (hopen : (n, e) ∈ openings (Loop.effectsOf w.log.record)) :
    (handedTo n w.log.record).filterMap EngineCall.host? =
      ((w.takenBy n).filterMap (Item.batch? e)).flatten := by
  have hlife : ∀ x ∈ lifeOf n w.log.record,
      (x.before.actor.calls x.message).filterMap EngineCall.host? =
        (x.command?.bind fun c => (⟨c, none⟩ : Item).batch? e).toList.flatMap id := by
    intro x hx
    obtain ⟨live, -, -, -, hepoch⟩ := h.run.life hx hopen
    rw [Actor.calls_host, hepoch, Worked.command?]
    rcases x.message with c | n | -
    · cases c with
      | hostPackets epoch packets => by_cases he : epoch = e <;> simp [Item.batch?, he]
      | start | stop | traffic | sessions | emitted | written | shutdown => rfl
    · rfl
    · rfl
  rw [handedTo, List.filterMap_flatMap, hmail.flatMap_life hlife, List.flatMap_id]
  rfl

/-- What the engine that runs put out is passed on in its turns. -/
theorem Sound.passed?_of_life (h : w.Sound k workshop period)
    (hopen : (n, e) ∈ openings (Loop.effectsOf w.log.record)) {x : Worked φ σ}
    (hx : x ∈ lifeOf n w.log.record) : x.before.actor.passed? x.message =
      x.command?.bind fun c => (⟨c, none⟩ : Item).emission? e := by
  obtain ⟨live, hlive, -, -, rfl⟩ := h.run.life hx hopen
  rw [Worked.command?]
  rcases x.message with c | n | -
  · exact Actor.passed?_of_live hlive c
  · rfl
  · rfl

/-- What is seen of the turns of an engine that show what it put out. -/
theorem Sound.flatMap_passed (h : w.Sound k workshop period) (hmail : w.Mail)
    (hopen : (n, e) ∈ openings (Loop.effectsOf w.log.record)) {β : Type}
    {look : Emission → Option β} {f : Worked φ σ → List β}
    (hf : ∀ x ∈ w.log.record, f x = ((x.before.actor.passed? x.message).bind look).toList) :
    (lifeOf n w.log.record).flatMap f =
      ((w.takenBy n).filterMap (Item.emission? e)).filterMap look := by
  have hlife : ∀ x ∈ lifeOf n w.log.record, f x =
      (x.command?.bind fun c => (⟨c, none⟩ : Item).emission? e).toList.flatMap
        fun emission => (look emission).toList := by
    intro x hx
    rw [hf x (Loop.mem_lifeOf.mp hx).1, h.passed?_of_life hopen hx]
    rcases x.command?.bind fun c => (⟨c, none⟩ : Item).emission? e with _ | emission <;> simp
  rw [hmail.flatMap_life hlife, ← List.filterMap_eq_flatMap_toList]
  rfl

/-- How packets and datagrams get to an engine and from it. -/
structure DataPath (k : Kind φ σ) (w : World φ σ) (n e : Nat) (params : EngineParams) : Prop where
  /-- Of packets from the host it was told those of the batches of its own reads that were taken
  while it ran, -/
  fed : (callsOn n (Loop.effectsOf w.log.record)).filterMap EngineCall.host? <+:
    ((w.takenBy n).filterMap (Item.batch? e)).flatten
  /-- and of datagrams from the network those that current handles reported while it ran: -/
  heard : (callsOn n (Loop.effectsOf w.log.record)).filterMap EngineCall.tunnel? <+:
    (lifeOf n w.log.record).flatMap Worked.heeded
  /-- the first of them if it broke, and else all of them, each once and in order. It has put out
  what an engine of its kind answers to what it is handed. -/
  whole : ∃ left,
    Conversed k n e params (Loop.effectsOf w.log.record) (handedTo n w.log.record) left ∧
      (left ≠ none ∨ w.bridge ≠ none ∨ k.Lasts →
        (callsOn n (Loop.effectsOf w.log.record)).filterMap EngineCall.host? =
            ((w.takenBy n).filterMap (Item.batch? e)).flatten ∧
          (callsOn n (Loop.effectsOf w.log.record)).filterMap EngineCall.tunnel? =
            (lifeOf n w.log.record).flatMap Worked.heeded)
  /-- These batches are the first of those that were delivered to its reads. -/
  delivered : (w.takenBy n).filterMap (Item.batch? e) <+: w.log.sent.filterMap (Item.batch? e)
  /-- What it puts out is sent in order; only some of this turn may still have to be. -/
  out : w.log.sent.filterMap (Item.emission? e) ++ posted e w.ahead =
    posted e (Loop.effectsOf w.log.record)
  /-- What was written to the host while it ran are the first of the packets that it put out, each
  with its family. -/
  wrote : hostWrites (Loop.effectsOf (lifeOf n w.log.record)) <+:
    (w.log.sent.filterMap (Item.emission? e)).filterMap Emission.packet?
  /-- What was sent while it ran are the first of the datagrams that it put out, each through a
  handle that was set up for its endpoint. -/
  sent : sends (Loop.effectsOf w.log.record) (Loop.effectsOf (lifeOf n w.log.record)) <+:
    (w.log.sent.filterMap (Item.emission? e)).filterMap Emission.datagram?
  /-- While it runs and nothing waits, this is all of it. -/
  complete : w.running = some n → w.channel = [] →
    (w.takenBy n).filterMap (Item.batch? e) = w.log.sent.filterMap (Item.batch? e) ∧
      hostWrites (Loop.effectsOf (lifeOf n w.log.record)) =
        (w.log.sent.filterMap (Item.emission? e)).filterMap Emission.packet? ∧
      sends (Loop.effectsOf w.log.record) (Loop.effectsOf (lifeOf n w.log.record)) =
        (w.log.sent.filterMap (Item.emission? e)).filterMap Emission.datagram?

/-- The messages of its epoch that an engine has taken are the first of those that were sent, and
all of them while it runs and nothing waits. -/
theorem Sound.taken_prefix (h : w.Sound k workshop period) {α : Type} {look : Item → Option α}
    (hfollows : w.Follows n look) :
    (w.takenBy n).filterMap look <+: w.log.sent.filterMap look ∧
      (w.running = some n → w.channel = [] →
        (w.takenBy n).filterMap look = w.log.sent.filterMap look) := by
  rw [← h.order, List.filterMap_append]
  refine ⟨hfollows.first.trans (List.prefix_append _ _), fun hrunning hchannel => ?_⟩
  simp [hfollows.all hrunning, hchannel]

theorem Sound.dataPath (h : w.Sound k workshop period) (hmail : w.Mail)
    (hmem : .engine n (.init e params) ∈ Loop.effectsOf w.log.record) :
    DataPath k w n e params := by
  have hopen : (n, e) ∈ openings (Loop.effectsOf w.log.record) := mem_openings.mpr ⟨params, hmem⟩
  have hhost := h.handedTo_host hmail hopen
  have htunnel := h.run.handedTo_tunnel n
  have hwrites : hostWrites (Loop.effectsOf (lifeOf n w.log.record)) =
      ((w.takenBy n).filterMap (Item.emission? e)).filterMap Emission.packet? := by
    rw [Loop.hostWrites_effectsOf]
    exact h.flatMap_passed hmail hopen fun x hx => h.run.hostWrites_of_mem hx
  have hsends : sends (Loop.effectsOf w.log.record) (Loop.effectsOf (lifeOf n w.log.record)) =
      ((w.takenBy n).filterMap (Item.emission? e)).filterMap Emission.datagram? := by
    rw [Loop.sends_effectsOf]
    exact h.flatMap_passed hmail hopen fun x hx => h.run.sends_of_mem hx
  obtain ⟨a, hconversation, -⟩ := h.run.conversation
  obtain ⟨left, hconversed, -⟩ := hconversation.went n e params hmem
  obtain ⟨hemissions, hall⟩ := h.taken_prefix (hmail.emissions n e hopen)
  obtain ⟨hbatches, hevery⟩ := h.taken_prefix (hmail.batches n e hopen)
  have htold := hconversed.callsOn_prefix
  refine ⟨?_, ?_, ⟨left, hconversed, fun hgoes => ?_⟩, hbatches, h.posted e, ?_, ?_,
    fun hrunning hchannel => ⟨hevery hrunning hchannel, ?_, ?_⟩⟩
  · rw [← hhost]
    exact htold.filterMap _
  · rw [← htunnel]
    exact htold.filterMap _
  · have heq : callsOn n (Loop.effectsOf w.log.record) = handedTo n w.log.record := by
      rcases hgoes with hleft | hbridge | hlasts
      · exact hconversed.callsOn_eq (.inl hleft)
      · obtain ⟨l, hl⟩ := Option.ne_none_iff_exists'.mp hbridge
        have hrun := h.run
        rw [hl] at hrun
        exact hrun.told n
      · exact hconversed.callsOn_eq (.inr hlasts)
    rw [heq]
    exact ⟨hhost, htunnel⟩
  · rw [hwrites]
    exact hemissions.filterMap _
  · rw [hsends]
    exact hemissions.filterMap _
  · rw [hwrites, hall hrunning hchannel]
  · rw [hsends, hall hrunning hchannel]

/-- How a bridge carries packets and datagrams between its engines, the host and the network. -/
structure Carrying (k : Kind φ σ) (w : World φ σ) : Prop where
  /-- What gets to each engine that was to be set up, and from it. -/
  paths : ∀ n e params, .engine n (.init e params) ∈ Loop.effectsOf w.log.record →
    DataPath k w n e params
  /-- Nothing is written or sent while no engine runs. -/
  idle : ∀ x ∈ w.log.record, x.before.actor.engine = none →
    hostWrites x.effects = [] ∧ written x.effects = []

/-- Whatever happens around a bridge and whatever its engines do, nothing that they are to be told
or that they put out is lost on the way, comes twice or overtakes something else. -/
theorem carrying_run (k : Kind φ σ) (workshop : φ) (period : Nat) (steps : List WorldStep) :
    Carrying k ((fresh workshop period).run k steps) := by
  have hsound := sound_run k workshop period steps
  have hmail := mail_run k workshop period steps
  generalize (fresh workshop period).run k steps = w at hsound hmail ⊢
  refine ⟨fun n e params hmem => hsound.dataPath hmail hmem, fun x hx hnone => ?_⟩
  have hpassed := Actor.passed?_of_idle hnone x.message
  have hwrites := hsound.run.hostWrites_of_mem hx
  have hsends := hsound.run.sends_of_mem hx
  rw [hpassed] at hwrites hsends
  exact ⟨hwrites, List.map_eq_nil_iff.mp hsends⟩

/-- Engines that send every packet from the host to two endpoints, and write every datagram from the
network to the host, with one more packet. -/
def relaying : Scripted.Script :=
  ⟨[], [.datagram (.v4 ⟨10, 0, 0, 1⟩ 51820) none,
      .datagram (.v6 (.ofGroups [0xfd00, 0, 0, 0, 0, 0, 0, 1]) 51820 7 0) none],
    [.packet .inet none, .packet .inet6 (some [6])], [], [], []⟩

/-- A packet and a datagram get through an engine. Then it is to be replaced when another datagram
comes in. -/
def crossing : List WorldStep :=
  [.ask (.start Loop.complete), .take 0, .act, .act, .act,
    .read 0 [[7]], .take 1, .act, .act, .act, .act, .take 1, .act, .act, .take 1, .act, .act,
    .hear 2 ⟨1, 1, .datagrams [[4]]⟩, .act, .act, .act, .take 2, .act, .take 2, .act,
    .ask (.start Loop.complete), .hear 3 ⟨2, 2, .datagrams [[5]]⟩, .act, .act, .act,
    .take 3, .act, .act, .act, .act, .act, .act, .act, .take 4, .take 4]

/-- What it puts out about that datagram comes too late to be written. -/
theorem carrying_crossing :
    hostWrites (Loop.effectsOf ((fresh 0 1).run relaying.kind crossing).log.record) =
      [([4], .inet), ([6], .inet6)] ∧
    (posted 1 (Loop.effectsOf ((fresh 0 1).run relaying.kind crossing).log.record)).filterMap
      Emission.packet? = [([4], .inet), ([6], .inet6), ([5], .inet), ([6], .inet6)] ∧
    sends (Loop.effectsOf ((fresh 0 1).run relaying.kind crossing).log.record)
      (Loop.effectsOf ((fresh 0 1).run relaying.kind crossing).log.record) =
        [(some (.v4 ⟨10, 0, 0, 1⟩ 51820), [7]),
          (some (.v6 (.ofGroups [0xfd00, 0, 0, 0, 0, 0, 0, 1]) 51820 7 0), [7])] ∧
    Carrying relaying.kind ((fresh 0 1).run relaying.kind crossing) :=
  ⟨by decide, by decide, by decide, carrying_run relaying.kind 0 1 crossing⟩

end World

end Bridge

end PacketTunnel
