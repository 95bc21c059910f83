import PacketTunnel.Proofs.BridgeRun

/-!
# What a bridge and its engine say to each other

What an engine puts out is a matter of the engine alone: of the state that it is in and of what it
is called with. A turn hands a series of calls to the engine that runs, one after the other until
it breaks, and sends the bridge what each of them makes the engine put out. The turns are given here
in these terms, so that what a turn does can be read off without going through it call by call.
-/

namespace PacketTunnel

/-- Count several datagrams that came in. -/
def Traffic.receivedAll (t : Traffic) (datagrams : List Packet) : Traffic :=
  datagrams.foldl (fun t datagram => t.received datagram.length) t

namespace Bridge

open Session

variable {φ σ : Type}

/-- A message starts an engine or does something else. -/
theorem Message.start_or (m : Message) :
    (∃ config, m = .command (.start config)) ∨ ∀ config, m ≠ .command (.start config) := by
  by_cases h : ∃ config, m = .command (.start config)
  · exact .inl h
  · exact .inr (not_exists.mp h)

/-- What was said: calls, each with what it made the engine put out. -/
abbrev Talk := List (EngineCall × List Emission)

namespace Kind

/-- What a call makes an engine do. To set one up and to give one up are not calls on it. -/
def react (k : Kind φ σ) : EngineCall → σ → Reaction σ
  | .host packet, s => k.host s packet
  | .tunnel datagram, s => k.tunnel s datagram
  | .tick, s => k.tick s
  | .shutdown, s => k.shutdown s
  | .init _ _, s | .drop, s => ⟨[], some s⟩

/-- What an engine answers to a series of calls, until it breaks, and the engine afterwards. -/
def talk (k : Kind φ σ) : List EngineCall → σ → Talk × Option σ
  | [], s => ([], some s)
  | call :: rest, s =>
    match (k.react call s).next with
    | none => ([(call, (k.react call s).output)], none)
    | some next =>
      ((call, (k.react call s).output) :: (talk k rest next).1, (talk k rest next).2)

variable {k : Kind φ σ} {call : EngineCall} {s next : σ}

@[simp] theorem talk_nil (k : Kind φ σ) (s : σ) : k.talk [] s = ([], some s) := rfl

theorem talk_cons_none (h : (k.react call s).next = none) (rest : List EngineCall) :
    k.talk (call :: rest) s = ([(call, (k.react call s).output)], none) := by
  rw [talk, h]

theorem talk_cons_some (h : (k.react call s).next = some next) (rest : List EngineCall) :
    k.talk (call :: rest) s =
      ((call, (k.react call s).output) :: (k.talk rest next).1, (k.talk rest next).2) := by
  rw [talk, h]

/-- An engine that has not broken goes on talking where it was. -/
theorem talk_append (k : Kind φ σ) (calls more : List EngineCall) {s last : σ}
    (h : (k.talk calls s).2 = some last) : k.talk (calls ++ more) s =
      ((k.talk calls s).1 ++ (k.talk more last).1, (k.talk more last).2) := by
  induction calls generalizing s with
  | nil =>
    obtain rfl : s = last := Option.some.inj h
    rfl
  | cons call rest ih =>
    rcases hnext : (k.react call s).next with _ | next
    · simp [talk_cons_none hnext] at h
    · rw [talk_cons_some hnext] at h
      rw [List.cons_append, talk_cons_some hnext, talk_cons_some hnext, ih h, List.cons_append]

/-- What an engine answers to are the first of the calls, and all of them if it does not break. -/
theorem talk_calls (k : Kind φ σ) (calls : List EngineCall) (s : σ) :
    (k.talk calls s).1.map Prod.fst <+: calls ∧
      ((k.talk calls s).2 ≠ none → (k.talk calls s).1.map Prod.fst = calls) := by
  induction calls generalizing s with
  | nil => exact ⟨List.nil_prefix, fun _ => rfl⟩
  | cons call rest ih =>
    rcases hnext : (k.react call s).next with _ | next
    · rw [talk_cons_none hnext]
      exact ⟨List.prefix_append [call] rest, fun h => absurd rfl h⟩
    · rw [talk_cons_some hnext]
      obtain ⟨hfirst, hall⟩ := ih next
      exact ⟨List.prefix_cons_inj call |>.mpr hfirst, fun h => congrArg (call :: ·) (hall h)⟩

end Kind

/-- What is done to call an engine. -/
def Live.saying (live : Live σ) (said : Talk) : List Effect :=
  said.flatMap fun (call, output) => .engine live.number call :: Actor.posts live.epoch output

/-- The call on an engine that an effect is, unless it sets the engine up or gives it up. -/
def Effect.callOn? (number : Nat) : Effect → Option EngineCall
  | .engine _ (.init _ _) | .engine _ .drop => none
  | .engine n call => if n = number then some call else none
  | _ => none

/-- What an engine of an epoch puts out with an effect. -/
def Effect.posted? (epoch : Nat) : Effect → Option Emission
  | .post (.emitted e emission) => if e = epoch then some emission else none
  | _ => none

/-- The number and the epoch of the attempt to set up an engine that an effect is. -/
def Effect.opening? : Effect → Option (Nat × Nat)
  | .engine n (.init epoch _) => some (n, epoch)
  | _ => none

/-- The calls on an engine, in order. -/
def callsOn (number : Nat) (effects : List Effect) : List EngineCall :=
  effects.filterMap (Effect.callOn? number)

/-- What an engine of an epoch has put out, in order. -/
def posted (epoch : Nat) (effects : List Effect) : List Emission :=
  effects.filterMap (Effect.posted? epoch)

/-- The attempts to set up an engine, in order. -/
def openings (effects : List Effect) : List (Nat × Nat) := effects.filterMap Effect.opening?

/-- Whether to look at effects in some way shows neither calls on engines nor what they put out. -/
def Blind {α : Type} (look : Effect → Option α) : Prop :=
  (∀ number call, look (.engine number call) = none) ∧ ∀ command, look (.post command) = none

section Views

variable (number epoch : Nat) (effects more : List Effect)

theorem callsOn_append :
    callsOn number (effects ++ more) = callsOn number effects ++ callsOn number more :=
  List.filterMap_append

theorem posted_append :
    posted epoch (effects ++ more) = posted epoch effects ++ posted epoch more :=
  List.filterMap_append

theorem openings_append : openings (effects ++ more) = openings effects ++ openings more :=
  List.filterMap_append

theorem mem_openings {number epoch : Nat} {effects : List Effect} :
    (number, epoch) ∈ openings effects ↔
      ∃ params, .engine number (.init epoch params) ∈ effects := by
  constructor
  · intro h
    obtain ⟨x, hx, hopening⟩ := List.mem_filterMap.mp h
    match x, hopening with
    | .engine n (.init e params), hopening =>
      obtain ⟨rfl, rfl⟩ := Prod.mk.inj (Option.some.inj hopening)
      exact ⟨params, hx⟩
  · rintro ⟨params, hmem⟩
    exact List.mem_filterMap.mpr ⟨_, hmem, rfl⟩

end Views

/-- Whether a call hands something to an engine, or ends it. -/
def EngineCall.Reaches : EngineCall → Prop
  | .host _ | .tunnel _ | .tick | .shutdown => True
  | .init _ _ | .drop => False

/-- Whether an effect is about something else than what is said to engines and answered by them. -/
def Effect.Mute : Effect → Prop
  | .engine _ .drop => True
  | .engine _ _ | .post _ => False
  | .readHost _ | .writeHost _ _ | .session _ | .started _ | .traffic _ | .sessions _ => True

section Mute

variable {effects : List Effect} (h : ∀ x ∈ effects, x.Mute)
include h

theorem callsOn_mute (number : Nat) : callsOn number effects = [] := by
  refine List.filterMap_eq_nil_iff.mpr fun x hx => ?_
  have hmute := h x hx
  cases x with
  | engine n call => cases call <;> first | rfl | exact hmute.elim
  | post => exact hmute.elim
  | readHost | writeHost | session | started | traffic | sessions => rfl

theorem posted_mute (epoch : Nat) : posted epoch effects = [] := by
  refine List.filterMap_eq_nil_iff.mpr fun x hx => ?_
  have hmute := h x hx
  cases x with
  | post => exact hmute.elim
  | engine | readHost | writeHost | session | started | traffic | sessions => rfl

theorem openings_mute : openings effects = [] := by
  refine List.filterMap_eq_nil_iff.mpr fun x hx => ?_
  have hmute := h x hx
  cases x with
  | engine n call => cases call <;> first | rfl | exact hmute.elim
  | post => exact hmute.elim
  | readHost | writeHost | session | started | traffic | sessions => rfl

end Mute

section Said

variable {α : Type} (live : Live σ) (said : Talk) (number epoch : Nat) (output : List Emission)

@[simp] theorem callsOn_posts : callsOn number (Actor.posts epoch output) = [] := by
  simp [callsOn, Actor.posts, Effect.callOn?]

@[simp] theorem openings_posts : openings (Actor.posts epoch output) = [] := by
  simp [openings, Actor.posts, Effect.opening?]

@[simp] theorem posted_posts (e : Nat) :
    posted e (Actor.posts epoch output) = if epoch = e then output else [] := by
  by_cases h : epoch = e <;> simp [posted, Actor.posts, Effect.posted?, Function.comp_def, h]

theorem saying_cons (call : EngineCall) : live.saying ((call, output) :: said) =
    [.engine live.number call] ++ Actor.posts live.epoch output ++ live.saying said := by
  simp [Live.saying]

theorem callsOn_saying (h : ∀ p ∈ said, p.1.Reaches) :
    callsOn number (live.saying said) = if live.number = number then said.map Prod.fst else [] := by
  induction said with
  | nil => simp [Live.saying, callsOn]
  | cons p rest ih =>
    obtain ⟨call, output⟩ := p
    obtain ⟨hcall, hrest⟩ := List.forall_mem_cons.mp h
    have hone : callsOn number [.engine live.number call] =
        if live.number = number then [call] else [] := by
      cases call <;> by_cases hn : live.number = number <;>
        simp_all [callsOn, Effect.callOn?, EngineCall.Reaches]
    rw [saying_cons, callsOn_append, callsOn_append, hone, callsOn_posts, ih hrest]
    by_cases hn : live.number = number <;> simp [hn]

@[simp] theorem posted_saying (e : Nat) : posted e (live.saying said) =
    if live.epoch = e then said.flatMap Prod.snd else [] := by
  induction said with
  | nil => simp [Live.saying, posted]
  | cons p rest ih =>
    obtain ⟨call, output⟩ := p
    have hone : posted e [.engine live.number call] = [] := rfl
    rw [saying_cons, posted_append, posted_append, hone, posted_posts, ih]
    by_cases he : live.epoch = e <;> simp [he]

theorem openings_saying (h : ∀ p ∈ said, p.1.Reaches) : openings (live.saying said) = [] := by
  induction said with
  | nil => rfl
  | cons p rest ih =>
    obtain ⟨call, output⟩ := p
    obtain ⟨hcall, hrest⟩ := List.forall_mem_cons.mp h
    have hone : openings [.engine live.number call] = [] := by
      cases call <;> simp_all [openings, Effect.opening?, EngineCall.Reaches]
    rw [saying_cons, openings_append, openings_append, hone, openings_posts, ih hrest]
    rfl

/-- Whoever looks that way sees nothing of what an engine is told and answers. -/
theorem Blind.filterMap_saying {look : Effect → Option α} (h : Blind look) :
    (live.saying said).filterMap look = [] := by
  rw [List.filterMap_eq_nil_iff]
  intro x hx
  obtain ⟨⟨call, output⟩, -, hx⟩ := List.mem_flatMap.mp hx
  rcases List.mem_cons.mp hx with rfl | hx
  · exact h.1 live.number call
  · obtain ⟨emission, -, rfl⟩ := List.mem_map.mp hx
    exact h.2 _

end Said

namespace Actor

/-- The turn in which a series of calls was handed to an engine. -/
def talked (a : Actor φ σ) (live : Live σ) (t : Talk × Option σ) : Turn φ σ :=
  match t.2 with
  | some state => .done { a with engine := some { live with state } } (live.saying t.1)
  | none => ⟨{ a with engine := none }, live.saying t.1 ++ [.engine live.number .drop], true⟩

variable {a : Actor φ σ} {live : Live σ} {k : Kind φ σ}

theorem broken_talked (a : Actor φ σ) (live : Live σ) (t : Talk × Option σ) :
    (a.talked live t).broken = t.2.isNone := by
  obtain ⟨said, state | -⟩ := t <;> rfl

/-- To call an engine is to talk to it. -/
theorem callEngine_eq (h : a.engine = some live) (call : EngineCall) :
    a.callEngine call (k.react call) = a.talked live (k.talk [call] live.state) := by
  rcases hnext : (k.react call live.state).next with _ | next
  · simp [callEngine, h, hnext, Kind.talk_cons_none hnext, talked, Live.saying]
  · simp [callEngine, h, hnext, Kind.talk_cons_some hnext, talked, Live.saying, Turn.done]

/-- Packets from the host are handed over one by one. -/
theorem handHost_eq (k : Kind φ σ) (packets : List Packet) {a : Actor φ σ} {live : Live σ}
    (h : a.engine = some live) :
    handHost k packets a = a.talked live (k.talk (packets.map .host) live.state) := by
  induction packets generalizing a live with
  | nil =>
    obtain ⟨workshop, attempts, engine, epoch, traffic, table⟩ := a
    obtain rfl : engine = some live := h
    rfl
  | cons packet rest ih =>
    have hcall : a.callEngine (.host packet) (k.host · packet) =
        a.talked live (k.talk [.host packet] live.state) := callEngine_eq h (.host packet)
    rw [handHost, hcall, List.map_cons]
    rcases hnext : (k.react (.host packet) live.state).next with _ | next
    · simp [Kind.talk_cons_none hnext, talked, Turn.andThen]
    · have hrest : ({ a with engine := some { live with state := next } } : Actor φ σ).engine =
          some { live with state := next } := rfl
      rw [Kind.talk_cons_some hnext, Kind.talk_cons_some hnext]
      simp only [Kind.talk_nil, talked, Turn.andThen, Turn.done, Bool.false_eq_true, if_false]
      rw [ih hrest]
      simp only [talked]
      split <;> simp_all [Live.saying, Turn.done]

/-- Datagrams from the network are handed over one by one, and those that are handed over count. -/
theorem handTunnel_eq (k : Kind φ σ) (datagrams : List Packet) {a : Actor φ σ} {live : Live σ}
    (h : a.engine = some live) : handTunnel k datagrams a =
      Actor.talked { a with traffic := a.traffic.receivedAll (datagrams.take
        (k.talk (datagrams.map .tunnel) live.state).1.length) }
        live (k.talk (datagrams.map .tunnel) live.state) := by
  induction datagrams generalizing a live with
  | nil =>
    obtain ⟨workshop, attempts, engine, epoch, traffic, table⟩ := a
    obtain rfl : engine = some live := h
    rfl
  | cons datagram rest ih =>
    have hcounted : ({ a with traffic := a.traffic.received datagram.length } :
        Actor φ σ).engine = some live := h
    have hcall : callEngine { a with traffic := a.traffic.received datagram.length }
        (.tunnel datagram) (k.tunnel · datagram) =
        talked { a with traffic := a.traffic.received datagram.length } live
          (k.talk [.tunnel datagram] live.state) := callEngine_eq hcounted (.tunnel datagram)
    rw [handTunnel, hcall, List.map_cons]
    rcases hnext : (k.react (.tunnel datagram) live.state).next with _ | next
    · simp [Kind.talk_cons_none hnext, talked, Turn.andThen, Traffic.receivedAll]
    · have hrest : ({ a with
          traffic := a.traffic.received datagram.length
          engine := some { live with state := next } } : Actor φ σ).engine =
          some { live with state := next } := rfl
      rw [Kind.talk_cons_some hnext, Kind.talk_cons_some hnext]
      simp only [Kind.talk_nil, talked, Turn.andThen, Turn.done, Bool.false_eq_true, if_false]
      rw [ih hrest]
      simp only [talked]
      split <;> simp_all [Live.saying, Turn.done, Traffic.receivedAll]

/-- Whether nothing comes of a message: it is about another epoch, a write has failed, or no engine
runs that it could be for. -/
def Ignores (a : Actor φ σ) : Message → Prop
  | .command (.hostPackets epoch _) | .command (.emitted epoch _) => a.current? epoch = none
  | .command (.written tag result) => a.current? tag.epoch = none ∨ result ≠ .ok ()
  | .notification _ | .tick => a.engine = none
  | .command _ => False

/-- What a message asks to be told. -/
def answer? (a : Actor φ σ) : Message → Option Effect
  | .command .traffic => some (.traffic a.traffic)
  | .command .sessions => some (.sessions a.table.entries)
  | _ => none

/-- What a report changes about the sessions. -/
def heard (a : Actor φ σ) (n : Notification) : Actor φ σ :=
  { a with table := (a.table.notify (κ := WriteTag) n).1 }

/-- The datagrams that a report brings. -/
def brought (a : Actor φ σ) (n : Notification) : List Packet :=
  (a.table.notify (κ := WriteTag) n).2.1.getD []

/-- A bridge that has handed the datagrams of a report to the engine, which it counts. -/
def hearing (a : Actor φ σ) (k : Kind φ σ) (live : Live σ) (n : Notification) : Actor φ σ :=
  { a.heard n with traffic := a.traffic.receivedAll ((a.brought n).take
    (k.talk ((a.brought n).map .tunnel) live.state).1.length) }

/-- What is done with handles about a report. -/
def heeding (a : Actor φ σ) (n : Notification) : List Effect :=
  (a.table.notify (κ := WriteTag) n).2.2.map .session

/-- What comes of a datagram that is sent. -/
def sending (a : Actor φ σ) (endpoint : Net.Endpoint) (datagram : Packet) :
    Table × Nat × List (Session.Effect WriteTag) :=
  a.table.send endpoint datagram ⟨a.epoch, datagram.length⟩

/-- What a turn about a message comes to. -/
inductive Turned (k : Kind φ σ) (a : Actor φ σ) : Message → Turn φ σ → Prop where
  /-- Nothing comes of the message. -/
  | ignored {m : Message} (h : a.Ignores m) : Turned k a m (.done a [])
  /-- Something is told. -/
  | told {m : Message} {answer : Effect} (h : a.answer? m = some answer) :
    Turned k a m (.done a [answer])
  /-- The engine is stopped. -/
  | stopped {c : Command} (h : c = .stop ∨ c = .shutdown) : Turned k a (.command c) (a.stop k)
  /-- Another engine takes the place of the one that runs. -/
  | started (config : Config) : Turned k a (.command (.start config)) (a.start k config)
  /-- Packets from the host are handed to the engine, and more are asked for. -/
  | fed {live : Live σ} (hengine : a.engine = some live) (packets : List Packet) :
    Turned k a (.command (.hostPackets a.epoch packets))
      ((a.talked live (k.talk (packets.map .host) live.state)).andThen
        fun a' => .done a' [.readHost a.epoch])
  /-- A packet is written to the host. -/
  | wrote {live : Live σ} (hengine : a.engine = some live) (family : Family) (packet : Packet) :
    Turned k a (.command (.emitted a.epoch (.packet family packet)))
      (.done a [.writeHost packet family])
  /-- A datagram is sent. -/
  | sent {live : Live σ} (hengine : a.engine = some live) (endpoint : Net.Endpoint)
    (datagram : Packet) : Turned k a (.command (.emitted a.epoch (.datagram endpoint datagram)))
      (.done { a with table := (a.sending endpoint datagram).1 }
        ((a.sending endpoint datagram).2.2.map .session))
  /-- A write is counted. -/
  | counted {live : Live σ} (hengine : a.engine = some live) {tag : WriteTag}
    (htag : tag.epoch = a.epoch) : Turned k a (.command (.written tag (.ok ())))
      (.done { a with traffic := a.traffic.sent tag.length } [])
  /-- A report is taken up, and the datagrams that it brings are handed to the engine. -/
  | heard {live : Live σ} (hengine : a.engine = some live) (n : Notification) :
    Turned k a (.notification n)
      ((Turn.done (a.heard n) (a.heeding n)).andThen fun _ =>
        (a.hearing k live n).talked live (k.talk ((a.brought n).map .tunnel) live.state))
  /-- The engine is told that time has passed. -/
  | ticked {live : Live σ} (hengine : a.engine = some live) :
    Turned k a .tick (a.talked live (k.talk [.tick] live.state))

/-- What a message hands to the engine that runs. -/
def calls (a : Actor φ σ) : Message → List EngineCall
  | .command (.hostPackets epoch packets) => if epoch = a.epoch then packets.map .host else []
  | .command (.start _) | .command .stop | .command .shutdown => [.shutdown]
  | .command _ => []
  | .notification n => (a.brought n).map .tunnel
  | .tick => [.tick]

theorem reaches_calls (a : Actor φ σ) (m : Message) : ∀ call ∈ a.calls m, call.Reaches := by
  intro call h
  rcases m with c | n | -
  · cases c <;> simp only [calls] at h <;> grind [EngineCall.Reaches]
  · obtain ⟨datagram, -, rfl⟩ := List.mem_map.mp h
    trivial
  · obtain rfl := List.mem_singleton.mp h
    trivial

theorem current?_eq_none (h : a.engine = none) (epoch : Nat) : a.current? epoch = none := by
  simp [current?, h]

theorem current?_eq_some (h : a.engine = some live) : a.current? a.epoch = some live := by
  simp [current?, h]

/-- What is told are the counters or the sessions. -/
theorem answer?_cases {m : Message} {answer : Effect} (h : a.answer? m = some answer) :
    m = .command .traffic ∧ answer = .traffic a.traffic ∨
      m = .command .sessions ∧ answer = .sessions a.table.entries := by
  rcases m with c | n | -
  · cases c with
    | traffic => exact .inl ⟨rfl, (Option.some.inj h).symm⟩
    | sessions => exact .inr ⟨rfl, (Option.some.inj h).symm⟩
    | start | stop | shutdown | hostPackets | emitted | written => cases h
  · cases h
  · cases h

/-- Nothing comes of a message while an engine runs if it is about another epoch, or about a write
that has failed. -/
theorem Ignores.of_live {m : Message} (h : a.Ignores m) (hengine : a.engine = some live) :
    (∃ epoch packets, m = .command (.hostPackets epoch packets) ∧ epoch ≠ a.epoch) ∨
      (∃ epoch emission, m = .command (.emitted epoch emission) ∧ epoch ≠ a.epoch) ∨
        ∃ tag result, m = .command (.written tag result) ∧
          (tag.epoch ≠ a.epoch ∨ result ≠ .ok ()) := by
  have hother {epoch : Nat} (hnone : a.current? epoch = none) : epoch ≠ a.epoch := by
    rintro rfl
    simp [current?_eq_some hengine] at hnone
  rcases m with c | n | -
  · cases c with
    | hostPackets epoch packets => exact .inl ⟨epoch, packets, rfl, hother h⟩
    | emitted epoch emission => exact .inr (.inl ⟨epoch, emission, rfl, hother h⟩)
    | written tag result => exact .inr (.inr ⟨tag, result, rfl, h.imp hother id⟩)
    | start | stop | traffic | sessions | shutdown => exact h.elim
  · exact absurd (hengine.symm.trans h) (Option.some_ne_none _)
  · exact absurd (hengine.symm.trans h) (Option.some_ne_none _)

/-- Work on a message is one of these turns. -/
theorem turned_turn (k : Kind φ σ) (l : Loop φ σ) (m : Message) :
    l.actor.Turned k m (l.turn k m) := by
  cases m with
  | tick =>
    rcases hengine : l.actor.engine with _ | live
    · have hturn : l.turn k .tick = .done l.actor [] := by
        simp [Loop.turn, tick, callEngine, hengine]
      rw [hturn]
      exact .ignored hengine
    · have hturn : l.turn k .tick = l.actor.talked live (k.talk [.tick] live.state) :=
        callEngine_eq hengine .tick
      rw [hturn]
      exact .ticked hengine
  | notification n =>
    rcases hengine : l.actor.engine with _ | live
    · have hturn : l.turn k (.notification n) = .done l.actor [] := by
        simp [Loop.turn, notification, isLive, hengine]
      rw [hturn]
      exact .ignored hengine
    · have hturn : l.turn k (.notification n) = (Turn.done (l.actor.heard n)
          (l.actor.heeding n)).andThen (handTunnel k (l.actor.brought n)) := by
        simp [Loop.turn, notification, isLive, hengine, Actor.heard, heeding, brought]
      have hheard : (l.actor.heard n).engine = some live := hengine
      have hhanded := handTunnel_eq k (l.actor.brought n) hheard
      rw [hturn, Turn.andThen]
      simp only [Turn.done, hhanded]
      exact .heard hengine n
  | command c =>
    cases c with
    | start config => exact .started config
    | stop => exact .stopped (.inl rfl)
    | shutdown => exact .stopped (.inr rfl)
    | traffic => exact .told rfl
    | sessions => exact .told rfl
    | hostPackets epoch packets =>
      rcases hcurrent : l.actor.current? epoch with _ | live
      · have hturn : l.turn k (.command (.hostPackets epoch packets)) = .done l.actor [] := by
          simp [Loop.turn, command, hostPackets, hcurrent]
        rw [hturn]
        exact .ignored hcurrent
      · obtain ⟨rfl, hengine⟩ := engine_of_current? hcurrent
        have hturn : l.turn k (.command (.hostPackets l.actor.epoch packets)) =
            (l.actor.talked live (k.talk (packets.map .host) live.state)).andThen
              fun a' => .done a' [.readHost l.actor.epoch] := by
          simp [Loop.turn, command, hostPackets, hcurrent, handHost_eq k packets hengine]
        rw [hturn]
        exact .fed hengine packets
    | emitted epoch emission =>
      rcases hcurrent : l.actor.current? epoch with _ | live
      · have hturn : l.turn k (.command (.emitted epoch emission)) = .done l.actor [] := by
          simp [Loop.turn, command, emitted, hcurrent]
        rw [hturn]
        exact .ignored hcurrent
      · obtain ⟨rfl, hengine⟩ := engine_of_current? hcurrent
        cases emission with
        | packet family packet =>
          have hturn : l.turn k (.command (.emitted l.actor.epoch (.packet family packet))) =
              .done l.actor [.writeHost packet family] := by
            simp [Loop.turn, command, emitted, hcurrent]
          rw [hturn]
          exact .wrote hengine family packet
        | datagram endpoint datagram =>
          have hturn : l.turn k (.command (.emitted l.actor.epoch (.datagram endpoint datagram))) =
              .done { l.actor with table := (l.actor.sending endpoint datagram).1 }
                ((l.actor.sending endpoint datagram).2.2.map .session) := by
            simp [Loop.turn, command, emitted, hcurrent, sending]
          rw [hturn]
          exact .sent hengine endpoint datagram
    | written tag result =>
      rcases hcurrent : l.actor.current? tag.epoch with _ | live
      · have hturn : l.turn k (.command (.written tag result)) = .done l.actor [] := by
          simp [Loop.turn, command, written, hcurrent]
        rw [hturn]
        exact .ignored (.inl hcurrent)
      · obtain ⟨htag, hengine⟩ := engine_of_current? hcurrent
        rcases result with reason | ⟨⟩
        · have hturn : l.turn k (.command (.written tag (.error reason))) = .done l.actor [] := by
            simp [Loop.turn, command, written, hcurrent]
          rw [hturn]
          exact .ignored (.inr fun heq => by cases heq)
        · have hturn : l.turn k (.command (.written tag (.ok ()))) =
              .done { l.actor with traffic := l.actor.traffic.sent tag.length } [] := by
            simp [Loop.turn, command, written, hcurrent]
          rw [hturn]
          exact .counted hengine htag

/-! ## What is said in a turn -/

/-- Whether the engine that runs is told some calls in a turn, answers to them as it does, and no
other engine has a say. -/
structure Speaks (k : Kind φ σ) (live : Live σ) (calls : List EngineCall) (t : Turn φ σ) :
    Prop where
  /-- The engine is told the calls, until it breaks. -/
  told : ∀ n, callsOn n t.effects =
    if live.number = n then (k.talk calls live.state).1.map Prod.fst else []
  /-- What it answers is posted in its epoch. -/
  answered : ∀ e, posted e t.effects =
    if live.epoch = e then (k.talk calls live.state).1.flatMap Prod.snd else []
  /-- No engine is set up. -/
  opened : openings t.effects = []
  /-- The turn breaks if the engine does. -/
  broken : t.broken = (k.talk calls live.state).2.isNone
  /-- The engine that runs afterwards is the same, if one does. -/
  engine : ∀ next, t.actor.engine = some next → ∃ state,
    (k.talk calls live.state).2 = some state ∧ next = { live with state }

/-- Whether nothing is said in a turn, and no engine runs. -/
structure Silent (t : Turn φ σ) : Prop where
  /-- No engine is called. -/
  told : ∀ n, callsOn n t.effects = []
  /-- Nothing is posted. -/
  answered : ∀ e, posted e t.effects = []
  /-- No engine is set up. -/
  opened : openings t.effects = []
  /-- The turn does not break. -/
  broken : t.broken = false
  /-- No engine runs. -/
  engine : t.actor.engine = none

theorem mute_sessions (effects : List (Session.Effect WriteTag)) :
    ∀ x ∈ effects.map Effect.session, x.Mute := by
  intro x hx
  obtain ⟨effect, -, rfl⟩ := List.mem_map.mp hx
  trivial

theorem mute_singleton {x : Effect} (h : x.Mute) : ∀ y ∈ [x], y.Mute :=
  List.forall_mem_singleton.mpr h

/-- An engine is spoken with if it is told calls, and whatever else is done says nothing. -/
theorem speaks_of {live : Live σ} {calls : List EngineCall} {t : Turn φ σ}
    (hreaches : ∀ call ∈ calls, call.Reaches) {before after : List Effect}
    (hbefore : ∀ x ∈ before, x.Mute) (hafter : ∀ x ∈ after, x.Mute)
    (heffects : t.effects = before ++ live.saying (k.talk calls live.state).1 ++ after)
    (hbroken : t.broken = (k.talk calls live.state).2.isNone)
    (hengine : ∀ next, t.actor.engine = some next → ∃ state,
      (k.talk calls live.state).2 = some state ∧ next = { live with state }) :
    Speaks k live calls t := by
  have hsaid : ∀ p ∈ (k.talk calls live.state).1, p.1.Reaches := fun _ hp =>
    hreaches _ ((k.talk_calls calls live.state).1.subset (List.mem_map_of_mem hp))
  refine ⟨fun n => ?_, fun e => ?_, ?_, hbroken, hengine⟩
  · rw [heffects, callsOn_append, callsOn_append, callsOn_mute hbefore, callsOn_mute hafter,
      callsOn_saying _ _ _ hsaid, List.nil_append, List.append_nil]
  · rw [heffects, posted_append, posted_append, posted_mute hbefore, posted_mute hafter,
      posted_saying, List.nil_append, List.append_nil]
  · rw [heffects, openings_append, openings_append, openings_mute hbefore, openings_mute hafter,
      openings_saying _ _ hsaid, List.append_nil, List.append_nil]

/-- To hand calls to an engine is to speak with it. -/
theorem speaks_talked (a : Actor φ σ) {live : Live σ} {calls : List EngineCall}
    (hreaches : ∀ call ∈ calls, call.Reaches) {t : Turn φ σ} {before after : List Effect}
    (hbefore : ∀ x ∈ before, x.Mute) (hafter : ∀ x ∈ after, x.Mute)
    (heffects : t.effects = before ++ (a.talked live (k.talk calls live.state)).effects ++ after)
    (hbroken : t.broken = (a.talked live (k.talk calls live.state)).broken)
    (hengine : t.actor.engine = (a.talked live (k.talk calls live.state)).actor.engine) :
    Speaks k live calls t := by
  rcases htalk : k.talk calls live.state with ⟨said, - | state⟩
  · rw [htalk] at heffects hbroken hengine
    have hdrop : ∀ x ∈ [Effect.engine live.number .drop] ++ after, x.Mute :=
      List.forall_mem_append.mpr ⟨mute_singleton trivial, hafter⟩
    refine speaks_of hreaches hbefore hdrop ?_ ?_ ?_
    · simp [heffects, htalk, talked]
    · simp [hbroken, htalk, talked]
    · simp [hengine, talked]
  · rw [htalk] at heffects hbroken hengine
    refine speaks_of hreaches hbefore hafter ?_ ?_ ?_
    · simp [heffects, htalk, talked, Turn.done]
    · simp [hbroken, htalk, talked, Turn.done]
    · simp [hengine, htalk, talked, Turn.done]

theorem mute_cancels (a : Actor φ σ) : ∀ x ∈ a.cancels, x.Mute := mute_sessions _

/-- To stop an engine is to tell it to shut down. -/
theorem speaks_stop (k : Kind φ σ) (h : a.engine = some live) :
    Speaks k live [.shutdown] (a.stop k) := by
  have hreaches : ∀ call ∈ [EngineCall.shutdown], call.Reaches :=
    List.forall_mem_singleton.mpr trivial
  have hdrop : ∀ x ∈ [Effect.engine live.number .drop], x.Mute := mute_singleton trivial
  have hengine : (a.stop k).actor.engine = none := engine_stop k a
  have hlive : a.cleared.engine = some live := h
  rcases hnext : (k.shutdown live.state).next with _ | next
  · have hreact : (k.react .shutdown live.state).next = none := hnext
    have htalk : k.talk [.shutdown] live.state =
        ([(.shutdown, (k.shutdown live.state).output)], none) := Kind.talk_cons_none hreact []
    refine speaks_of hreaches (mute_cancels a) hdrop ?_ ?_ ?_
    · simp [stop_eq, shutdownEngine, hlive, htalk, hnext, Live.saying]
    · simp [stop_eq, shutdownEngine, hlive, htalk, hnext]
    · simp [hengine]
  · have hreact : (k.react .shutdown live.state).next = some next := hnext
    have htalk : k.talk [.shutdown] live.state =
        ([(.shutdown, (k.shutdown live.state).output)], some next) := Kind.talk_cons_some hreact []
    refine speaks_of hreaches (mute_cancels a) hdrop ?_ ?_ ?_
    · simp [stop_eq, shutdownEngine, hlive, htalk, hnext, Live.saying, Turn.done]
    · simp [stop_eq, shutdownEngine, hlive, htalk, hnext, Turn.done]
    · simp [hengine]

/-- Nothing is said in a turn that does nothing but such effects, where no engine runs. -/
theorem silent_of {b : Actor φ σ} (h : b.engine = none) {effects : List Effect}
    (hmute : ∀ x ∈ effects, x.Mute) : Silent (Turn.done b effects) :=
  ⟨callsOn_mute hmute, posted_mute hmute, openings_mute hmute, rfl, h⟩

/-- An engine has nothing to say to such effects. -/
theorem speaks_nil {b : Actor φ σ} (h : b.engine = some live) {effects : List Effect}
    (hmute : ∀ x ∈ effects, x.Mute) : Speaks k live [] (Turn.done b effects) := by
  refine speaks_of (fun _ hmem => absurd hmem List.not_mem_nil) hmute
    (fun _ hmem => absurd hmem List.not_mem_nil) ?_ rfl ?_
  · simp [Live.saying, Turn.done]
  · intro next hnext
    obtain rfl : live = next := Option.some.inj (h.symm.trans hnext)
    exact ⟨live.state, rfl, rfl⟩

/-- Where an engine runs, a turn tells it what the message hands to it. -/
theorem Turned.speaks {m : Message} {t : Turn φ σ} (h : a.Turned k m t)
    (hengine : a.engine = some live) (hm : ∀ config, m ≠ .command (.start config)) :
    Speaks k live (a.calls m) t := by
  have hnone : ∀ x ∈ ([] : List Effect), x.Mute := fun _ hmem => absurd hmem List.not_mem_nil
  have hreaches := a.reaches_calls m
  cases h with
  | started config => exact absurd rfl (hm config)
  | ignored hignored =>
    have hcalls : a.calls m = [] := by
      rcases hignored.of_live hengine with ⟨_, _, rfl, hother⟩ | ⟨_, _, rfl, -⟩ | ⟨_, _, rfl, -⟩
      · exact if_neg hother
      · rfl
      · rfl
    rw [hcalls]
    exact speaks_nil hengine hnone
  | told hanswer =>
    rcases answer?_cases hanswer with ⟨rfl, rfl⟩ | ⟨rfl, rfl⟩
    · exact speaks_nil hengine (mute_singleton trivial)
    · exact speaks_nil hengine (mute_singleton trivial)
  | stopped hc =>
    have hstop := speaks_stop k hengine
    rcases hc with rfl | rfl <;> exact hstop
  | @fed found hfound packets =>
    obtain rfl := Option.some.inj (hfound.symm.trans hengine)
    have hcalls : a.calls (.command (.hostPackets a.epoch packets)) = packets.map .host :=
      if_pos rfl
    rw [hcalls] at hreaches ⊢
    rcases hbroken : (a.talked found (k.talk (packets.map .host) found.state)).broken with - | -
    · have hread : ∀ x ∈ [Effect.readHost a.epoch], x.Mute := mute_singleton trivial
      refine speaks_talked a hreaches hnone hread ?_ ?_ ?_
      · simp [Turn.andThen, hbroken, Turn.done]
      · simp [Turn.andThen, hbroken, Turn.done]
      · simp [Turn.andThen, hbroken, Turn.done]
    · refine speaks_talked a hreaches hnone hnone ?_ ?_ ?_
      · simp [Turn.andThen, hbroken]
      · simp [Turn.andThen, hbroken]
      · simp [Turn.andThen, hbroken]
  | wrote => exact speaks_nil hengine (mute_singleton trivial)
  | @sent _ _ endpoint datagram =>
    have hsent : ({ a with table := (a.sending endpoint datagram).1 } : Actor φ σ).engine =
        some live := hengine
    exact speaks_nil hsent (mute_sessions _)
  | @counted _ _ tag =>
    have hcounted : ({ a with traffic := a.traffic.sent tag.length } : Actor φ σ).engine =
        some live := hengine
    exact speaks_nil hcounted hnone
  | @heard found hfound n =>
    obtain rfl := Option.some.inj (hfound.symm.trans hengine)
    have hheeding : ∀ x ∈ a.heeding n, x.Mute := mute_sessions _
    exact speaks_talked (a.hearing k found n) hreaches hheeding hnone (List.append_nil _).symm
      rfl rfl
  | ticked hfound =>
    obtain rfl := Option.some.inj (hfound.symm.trans hengine)
    refine speaks_talked a hreaches hnone hnone ?_ ?_ ?_
    · simp [calls]
    · simp [calls]
    · simp [calls]

/-- Where no engine runs, nothing is said in a turn that sets up none. -/
theorem Turned.silent {m : Message} {t : Turn φ σ} (h : a.Turned k m t) (hengine : a.engine = none)
    (hm : ∀ config, m ≠ .command (.start config)) : Silent t := by
  have hnone : ∀ x ∈ ([] : List Effect), x.Mute := fun _ hmem => absurd hmem List.not_mem_nil
  cases h with
  | started config => exact absurd rfl (hm config)
  | ignored => exact silent_of hengine hnone
  | told hanswer =>
    rcases answer?_cases hanswer with ⟨rfl, rfl⟩ | ⟨rfl, rfl⟩
    · exact silent_of hengine (mute_singleton trivial)
    · exact silent_of hengine (mute_singleton trivial)
  | stopped =>
    have hcleared : a.cleared.engine = none := hengine
    rw [stop_idle k hengine]
    exact silent_of hcleared (mute_cancels a)
  | fed hlive | wrote hlive | sent hlive | counted hlive | heard hlive | ticked hlive =>
    exact absurd (hlive.symm.trans hengine) (Option.some_ne_none _)

/-- How an attempt to set up an engine for a configuration ends. -/
inductive SetUp (k : Kind φ σ) (config : Config) (a : Actor φ σ) : Turn φ σ → Prop where
  /-- The configuration starts no engine. -/
  | unfit {cause : ConfigError} (hparams : config.engineParams = .error cause) :
    SetUp k config a (.done a [.started (.error (.config cause))])
  /-- The attempt breaks off. -/
  | broken {params : EngineParams} {workshop : φ} {output : List Emission}
    (hparams : config.engineParams = .ok params)
    (hinit : k.init a.workshop params = (workshop, output, .broken)) :
    SetUp k config a ⟨a.opened workshop, a.attempted params output, true⟩
  /-- The engine is refused. -/
  | refused {params : EngineParams} {workshop : φ} {output : List Emission}
    (hparams : config.engineParams = .ok params)
    (hinit : k.init a.workshop params = (workshop, output, .refused)) :
    SetUp k config a
      (.done (a.opened workshop) (a.attempted params output ++ [.started (.error .engine)]))
  /-- The engine runs. -/
  | running {params : EngineParams} {workshop : φ} {output : List Emission} {state : σ}
    (hparams : config.engineParams = .ok params)
    (hinit : k.init a.workshop params = (workshop, output, .running state)) :
    SetUp k config a (.done
      { a.opened workshop with
        engine := some ⟨a.attempts, a.epoch + 1, state⟩
        traffic := .none
        table := a.table.withInterface config.requiredInterface }
      (a.attempted params output ++ [.readHost (a.epoch + 1), .started (.ok ())]))

theorem setUp_setUp (k : Kind φ σ) (config : Config) (a : Actor φ σ) :
    SetUp k config a (a.setUp k config) := by
  rw [setUp]
  rcases hparams : config.engineParams with cause | params
  · exact .unfit hparams
  · rcases hinit : k.init a.workshop params with ⟨workshop, output, state | - | -⟩
    · simp only [hinit]
      exact .running hparams hinit
    · simp only [hinit]
      exact .refused hparams hinit
    · simp only [hinit]
      exact .broken hparams hinit

/-- A start stops what runs and then sets up another engine, unless it broke before. -/
theorem start_cases (k : Kind φ σ) (config : Config) (a : Actor φ σ) :
    (a.stop k).broken = true ∧ a.start k config = a.stop k ∨
      (a.stop k).broken = false ∧ ∃ t, SetUp k config (a.stop k).actor t ∧
        a.start k config = ⟨t.actor, (a.stop k).effects ++ t.effects, t.broken⟩ := by
  rcases hbroken : (a.stop k).broken with - | -
  · refine .inr ⟨rfl, _, setUp_setUp k config _, ?_⟩
    simp [start, Turn.andThen, hbroken]
  · refine .inl ⟨rfl, ?_⟩
    simp [start, Turn.andThen, hbroken]

section Blind

variable {α : Type} {look : Effect → Option α} (h : Blind look)
include h

/-- Nothing is seen of calls that are handed to an engine, -/
theorem filterMap_talked (a : Actor φ σ) (live : Live σ) (t : Talk × Option σ) :
    (a.talked live t).effects.filterMap look = [] := by
  obtain ⟨said, state | -⟩ := t
  · simp [talked, h.filterMap_saying, h.1]
  · simp [talked, Turn.done, h.filterMap_saying]

theorem filterMap_posts (epoch : Nat) (output : List Emission) :
    (posts epoch output).filterMap look = [] := by
  simp [posts, h.2]

/-- nor of an engine that is shut down, -/
theorem filterMap_stop (k : Kind φ σ) (a : Actor φ σ) :
    (a.stop k).effects.filterMap look = a.cancels.filterMap look := by
  rcases hengine : a.engine with _ | live
  · simp [stop_idle k hengine, Turn.done]
  · obtain ⟨output, heffects, -⟩ := stop_live k hengine
    simp [heffects, Live.shutDown, h.1, filterMap_posts h]

/-- nor of an attempt to set one up. -/
theorem filterMap_attempted (a : Actor φ σ) (params : EngineParams) (output : List Emission) :
    (a.attempted params output).filterMap look = [] := by
  simp [attempted, h.1, filterMap_posts h]

/-- Who does not look at answers and reads either sees of a start that sessions are cancelled. -/
theorem filterMap_start (hread : ∀ epoch, look (.readHost epoch) = none)
    (hstarted : ∀ result, look (.started result) = none) (k : Kind φ σ) (config : Config)
    (a : Actor φ σ) : (a.start k config).effects.filterMap look = a.cancels.filterMap look := by
  have hsetUp {b : Actor φ σ} {t : Turn φ σ} (ht : SetUp k config b t) :
      t.effects.filterMap look = [] := by
    cases ht with
    | unfit => simp [Turn.done, hstarted]
    | broken => exact filterMap_attempted h ..
    | refused | running => simp [Turn.done, filterMap_attempted h, hread, hstarted]
  rcases start_cases k config a with ⟨-, hstart⟩ | ⟨-, t, ht, hstart⟩
  · rw [hstart, filterMap_stop h]
  · rw [hstart, List.filterMap_append, filterMap_stop h, hsetUp ht, List.append_nil]

end Blind

/-- What is done in a turn besides talking to engines, asking for packets and answering starts. -/
def aside (a : Actor φ σ) : Message → List Effect
  | .command (.start _) | .command .stop | .command .shutdown => a.cancels
  | .command .traffic => [.traffic a.traffic]
  | .command .sessions => [.sessions a.table.entries]
  | .command (.emitted epoch (.packet family packet)) =>
    if (a.current? epoch).isSome then [.writeHost packet family] else []
  | .command (.emitted epoch (.datagram endpoint datagram)) =>
    if (a.current? epoch).isSome then (a.sending endpoint datagram).2.2.map .session else []
  | .command (.hostPackets _ _) | .command (.written _ _) | .tick => []
  | .notification n => if a.isLive then a.heeding n else []

/-- Who looks at nothing else sees this of a turn. -/
theorem Turned.filterMap_eq {m : Message} {t : Turn φ σ} (h : a.Turned k m t) {α : Type}
    {look : Effect → Option α} (hblind : Blind look)
    (hread : ∀ epoch, look (.readHost epoch) = none)
    (hstarted : ∀ result, look (.started result) = none) :
    t.effects.filterMap look = (a.aside m).filterMap look := by
  cases h with
  | ignored hignored =>
    rcases m with c | n | -
    · cases c with
      | emitted epoch emission =>
        have hnone : a.current? epoch = none := hignored
        cases emission <;> simp [aside, hnone, Turn.done]
      | hostPackets | written => rfl
      | start | stop | traffic | sessions | shutdown => exact hignored.elim
    · have hnone : a.engine = none := hignored
      simp [aside, isLive, hnone, Turn.done]
    · rfl
  | told hanswer => rcases answer?_cases hanswer with ⟨rfl, rfl⟩ | ⟨rfl, rfl⟩ <;> rfl
  | stopped hc =>
    rw [filterMap_stop hblind]
    rcases hc with rfl | rfl <;> rfl
  | started config => exact filterMap_start hblind hread hstarted k config a
  | @fed live hengine packets =>
    have htalked := filterMap_talked hblind a live (k.talk (packets.map .host) live.state)
    rw [Turn.andThen]
    split
    · exact htalked
    · simp [htalked, Turn.done, hread, aside]
  | wrote hengine => simp [aside, current?_eq_some hengine, Turn.done]
  | sent hengine => simp [aside, current?_eq_some hengine, Turn.done]
  | counted => rfl
  | @heard live hengine n =>
    have htalked := filterMap_talked hblind (a.hearing k live n) live
      (k.talk ((a.brought n).map .tunnel) live.state)
    simp [Turn.andThen, Turn.done, htalked, aside, isLive, hengine]
  | @ticked live hengine => exact filterMap_talked hblind a live _

end Actor

end Bridge

end PacketTunnel
