import Mathlib.Algebra.GroupWithZero.Nat
import PacketTunnel.Proofs.EngineMail

/-!
# What the counters count

Turn by turn, the counters go up with the ends of writes of the current epoch that report success,
and with the datagrams that are handed to the engine. So they tell of the engine of the latest start
alone, and stand still while none runs.
-/

namespace PacketTunnel

/-- The counters for datagrams of given lengths that were sent and that came in. -/
def Traffic.of (sent received : List Nat) : Traffic :=
  ⟨sent.sum, received.sum, sent.length, received.length⟩

theorem Traffic.sent_of (sent received : List Nat) (length : Nat) :
    (Traffic.of sent received).sent length = .of (sent ++ [length]) received := by
  simp [of, Traffic.sent]

theorem Traffic.receivedAll_of (sent received : List Nat) (datagrams : List Packet) :
    (Traffic.of sent received).receivedAll datagrams =
      .of sent (received ++ datagrams.map List.length) := by
  induction datagrams generalizing received with
  | nil => simp [receivedAll]
  | cons datagram rest ih =>
    have hcons : (Traffic.of sent received).receivedAll (datagram :: rest) =
        ((Traffic.of sent received).received datagram.length).receivedAll rest := rfl
    have hone : (Traffic.of sent received).received datagram.length =
        .of sent (received ++ [datagram.length]) := by
      simp [of, Traffic.received]
    rw [hcons, hone, ih]
    simp

namespace Bridge

open Session

variable {φ σ : Type}

/-- The datagram from the network that a call hands over. -/
def EngineCall.tunnel? : EngineCall → Option Packet
  | .tunnel datagram => some datagram
  | .host _ | .init _ _ | .tick | .shutdown | .drop => none

/-- The length of what was written, if a message is about a write of an epoch that succeeded. -/
def Command.written? (epoch : Nat) : Command → Option Nat
  | .written tag (.ok ()) => if tag.epoch = epoch then some tag.length else none
  | _ => none

/-- The length that a message adds to what was sent in an epoch. -/
def Message.written? (epoch : Nat) : Message → Option Nat
  | .command c => c.written? epoch
  | .notification _ | .tick => none

/-- The length that a turn adds to what was sent. -/
def Worked.counted? (x : Worked φ σ) : Option Nat := x.message.written? x.before.actor.epoch

/-- The datagrams that were passed to the engine of a number. -/
def received (n : Nat) (record : List (Worked φ σ)) : List Packet :=
  (callsOn n (Loop.effectsOf record)).filterMap EngineCall.tunnel?

namespace Actor

variable {k : Kind φ σ} {a : Actor φ σ} {m : Message} {t : Turn φ σ} {live : Live σ}

theorem traffic_talked (a : Actor φ σ) (live : Live σ) (t : Talk × Option σ) :
    (a.talked live t).actor.traffic = a.traffic := by
  obtain ⟨said, state | -⟩ := t <;> rfl

theorem filterMap_tunnel_host (packets : List Packet) :
    (packets.map EngineCall.host).filterMap EngineCall.tunnel? = [] := by
  simp [EngineCall.tunnel?]

theorem filterMap_tunnel (datagrams : List Packet) :
    (datagrams.map EngineCall.tunnel).filterMap EngineCall.tunnel? = datagrams := by
  simp [List.filterMap_map, Function.comp_def, EngineCall.tunnel?]

/-- What the counters are after a turn in which an engine ran and did not break. -/
theorem Turned.traffic (h : a.Turned k m t) (hm : ∀ config, m ≠ .command (.start config))
    (hengine : a.engine = some live) (hgoes : t.broken = false) {sent received : List Nat}
    (htraffic : a.traffic = .of sent received) : t.actor.traffic =
      .of (sent ++ (m.written? a.epoch).toList)
        (received ++ ((a.calls m).filterMap EngineCall.tunnel?).map List.length) := by
  have hsame (hactor : t.actor.traffic = a.traffic) (hwritten : m.written? a.epoch = none)
      (hcalls : (a.calls m).filterMap EngineCall.tunnel? = []) : t.actor.traffic =
        .of (sent ++ (m.written? a.epoch).toList)
          (received ++ ((a.calls m).filterMap EngineCall.tunnel?).map List.length) := by
    simp [hactor, htraffic, hwritten, hcalls]
  cases h with
  | started config => exact absurd rfl (hm config)
  | ignored hignored =>
    rcases hignored.of_live hengine with ⟨epoch, packets, rfl, hother⟩ | ⟨_, _, rfl, -⟩ |
      ⟨tag, result, rfl, hwhy⟩
    · exact hsame rfl rfl (by simp [calls, hother])
    · exact hsame rfl rfl rfl
    · refine hsame rfl ?_ rfl
      rcases result with reason | ⟨⟩
      · rfl
      · simp [Message.written?, Command.written?] at hwhy ⊢
        exact hwhy
  | told hanswer =>
    rcases answer?_cases hanswer with ⟨rfl, rfl⟩ | ⟨rfl, rfl⟩ <;> exact hsame rfl rfl rfl
  | stopped hc =>
    rcases hc with rfl | rfl <;> exact hsame (traffic_stop k a) rfl rfl
  | @fed found hfound packets =>
    have hcalls : a.calls (.command (.hostPackets a.epoch packets)) = packets.map .host :=
      if_pos rfl
    refine hsame ?_ rfl (by rw [hcalls, filterMap_tunnel_host])
    rw [Turn.andThen]
    split
    · rw [traffic_talked]
    · rw [Turn.done, traffic_talked]
  | wrote | sent => exact hsame rfl rfl rfl
  | @counted found hfound tag htag =>
    have hwritten : (Message.command (.written tag (.ok ()))).written? a.epoch =
        some tag.length := if_pos htag
    simp [Turn.done, htraffic, hwritten, calls, Traffic.sent_of]
  | @heard found hfound n =>
    obtain rfl := Option.some.inj (hfound.symm.trans hengine)
    have hlasts : (k.talk ((a.brought n).map .tunnel) found.state).2.isSome := by
      simpa [Turn.andThen, Turn.done, broken_talked] using hgoes
    have hall := congrArg List.length ((k.talk_calls ((a.brought n).map .tunnel) found.state).2
      (Option.isSome_iff_ne_none.mp hlasts))
    have htake : (a.brought n).take
        (k.talk ((a.brought n).map .tunnel) found.state).1.length = a.brought n := by
      refine List.take_of_length_le ?_
      simp at hall
      omega
    have hcalls : (a.calls (.notification n)).filterMap EngineCall.tunnel? = a.brought n :=
      filterMap_tunnel (a.brought n)
    rw [hcalls]
    simp [Turn.andThen, Turn.done, traffic_talked, hearing, htake, htraffic, Message.written?,
      Traffic.receivedAll_of]
  | ticked => exact hsame (traffic_talked a _ _) rfl rfl

/-- Nothing counts in a turn in which no engine runs. -/
theorem Turned.traffic_idle (h : a.Turned k m t) (hm : ∀ config, m ≠ .command (.start config))
    (hengine : a.engine = none) : t.actor.traffic = a.traffic := by
  cases h with
  | started config => exact absurd rfl (hm config)
  | ignored | told | wrote | sent => rfl
  | stopped => exact traffic_stop k a
  | fed hlive | counted hlive | heard hlive | ticked hlive =>
    exact absurd (hlive.symm.trans hengine) (Option.some_ne_none _)

end Actor

namespace Loop

variable {k : Kind φ σ} {workshop : φ} {period : Nat} {record : List (Worked φ σ)} {l : Loop φ σ}

theorem Run.received_eq (h : Run k (fresh workshop period) record (some l)) (n : Nat) :
    received n record = (handedTo n record).filterMap EngineCall.tunnel? := by
  rw [received, h.told]

/-- What the counters are after a turn in which an engine ran, unless another one was started. -/
theorem traffic_turn {m : Message} {live : Live σ} (hengine : l.actor.engine = some live)
    (hgoes : (l.turn k m).broken = false)
    (hfails : ∀ config, m = .command (.start config) → l.actor.Fails (l.turn k m))
    {sent received : List Nat} (htraffic : l.actor.traffic = .of sent received) :
    (l.turn k m).actor.traffic = .of (sent ++ (m.written? l.actor.epoch).toList)
      (received ++ ((l.actor.calls m).filterMap EngineCall.tunnel?).map List.length) := by
  rcases m.start_or with ⟨config, rfl⟩ | hm
  · have hwritten : (Message.command (.start config)).written? l.actor.epoch = none := rfl
    have hcalls : (l.actor.calls (.command (.start config))).filterMap EngineCall.tunnel? = [] :=
      rfl
    simp [hwritten, hcalls, (hfails config rfl).traffic, htraffic]
  · exact (Actor.turned_turn k l m).traffic hm hengine hgoes htraffic

/-- They stay as they are in a turn that leaves a bridge without engine. -/
theorem traffic_turn_idle {m : Message} (hengine : l.actor.engine = none)
    (hfails : ∀ config, m = .command (.start config) → l.actor.Fails (l.turn k m)) :
    (l.turn k m).actor.traffic = l.actor.traffic := by
  rcases m.start_or with ⟨config, hm⟩ | hm
  · exact (hfails config hm).traffic
  · exact (Actor.turned_turn k l m).traffic_idle hm hengine

/-- The engine that a start leaves running has done nothing so far, and nothing was handed to it. -/
theorem Run.of_succeeds (h : Run k (fresh workshop period) record (some l)) {config : Config}
    {live : Live σ}
    (hsucceeds : l.actor.Succeeds config (l.turn k (.command (.start config))) live) :
    lifeOf live.number record = [] ∧ l.actor.engine.map (·.number) ≠ some live.number := by
  have hopened : (live.number, live.epoch) ∈
      openings (l.turn k (.command (.start config))).effects := by
    simp [hsucceeds.opened]
  have hle := (openings_turn k l _ _ hopened).1
  refine ⟨h.lifeOf_eq_nil hle, fun hnumber => ?_⟩
  obtain ⟨before, hbefore, heq⟩ := Option.map_eq_some_iff.mp hnumber
  have hlt := h.number_lt hbefore
  dsimp only at hle
  omega

/-- The counters are those of the engine of the latest start. -/
theorem Run.traffic (h : Run k (fresh workshop period) record (some l)) {n : Nat} {config : Config}
    (hlatest : lastStart record = some (n, config)) : l.actor.traffic =
      .of ((lifeOf n record).filterMap Worked.counted?) ((received n record).map List.length) := by
  generalize hlast : some l = last at h
  induction h generalizing l with
  | nil => cases hlatest
  | @snoc record found h now m ih =>
    have hafter := h.snoc now m
    rw [← hlast] at hafter
    obtain ⟨hactor, hgoes⟩ := actor_of_after hlast.symm
    have hbefore : (found.worked k now m).before = found := rfl
    have hmessage : (found.worked k now m).message = m := rfl
    rw [hafter.received_eq, handedTo_snoc, lifeOf_append, lifeOf_singleton, hactor, hbefore,
      hmessage]
    rw [lastStart_snoc] at hlatest
    rcases started_cases k found now m with ⟨started, live, rfl, hstarted, hsucceeds⟩ |
      ⟨hstarted, hfails⟩
    · have heq : some (live.number, started) = some (n, config) := by
        simpa [hstarted] using hlatest
      obtain ⟨rfl, -⟩ := Prod.mk.inj (Option.some.inj heq)
      obtain ⟨hlife, hnone⟩ := h.of_succeeds hsucceeds
      simp [handedTo, hlife, hnone, hsucceeds.traffic, Traffic.of, Traffic.none]
    · have hsame : lastStart record = some (n, config) := by simpa [hstarted] using hlatest
      have hcount := ih hsame rfl
      rw [h.received_eq] at hcount
      have hcounted : (found.worked k now m).counted? = m.written? found.actor.epoch := rfl
      rcases hengine : found.actor.engine with _ | live
      · simpa [traffic_turn_idle hengine hfails] using hcount
      · have hnumber : live.number = n := h.number_eq hsame hengine
        rw [traffic_turn hengine hgoes hfails hcount]
        rcases hwritten : m.written? found.actor.epoch with _ | length <;>
          simp [hnumber, hcounted, hwritten]

end Loop

end Bridge

end PacketTunnel
