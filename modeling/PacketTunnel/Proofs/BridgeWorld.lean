import Mathlib.Data.List.Perm.Basic
import PacketTunnel.Proofs.EngineConversation

/-!
# A bridge and its surroundings

A bridge takes its messages from a channel: requests, what its engine puts out, packets that were
read for it, and the ends of writes. What it does in a turn is done one after the other, and the
surroundings may act in between. The host holds the handlers of reads, and calls or discards each
of them once; the sessions hold the completions of writes, and call or drop each of them once. What
session handles report and the ticks of the timer come at any time.

What has happened is kept on record, for nobody to look at but the theory.
-/

namespace PacketTunnel.Bridge

open Session

variable {φ σ : Type}

/-- What a bridge may be asked for. -/
inductive Request where
  /-- To start an engine in the place of the one that runs. -/
  | start (config : Config)
  /-- To stop the engine. -/
  | stop
  /-- To tell the counters. -/
  | traffic
  /-- To tell the sessions. -/
  | sessions
  /-- To stop the engine and take no further messages. -/
  | shutdown

/-- The message that a request is sent as. -/
def Request.command : Request → Command
  | .start config => .start config
  | .stop => .stop
  | .traffic => .traffic
  | .sessions => .sessions
  | .shutdown => .shutdown

/-- A datagram that was handed to a session handle. -/
structure Parcel where
  /-- Its place among all that were handed over. -/
  serial : Nat
  /-- The engine that ran. -/
  engine : Option Nat
  /-- The handle. -/
  generation : Nat
  /-- The datagram. -/
  datagram : Packet
  /-- What the completion of the write tells the bridge. -/
  tag : WriteTag
  deriving DecidableEq, Repr

/-- A message in the channel. -/
structure Item where
  /-- The message. -/
  command : Command
  /-- What was written, if it is about the end of a write. -/
  parcel : Option Parcel

/-- What has happened. -/
structure Log (φ σ : Type) where
  /-- The turns of the bridge. -/
  record : List (Worked φ σ)
  /-- The messages that were sent, in order. -/
  sent : List Item
  /-- The messages that the bridge has taken, each with the engine that ran then. -/
  taken : List (Option Nat × Item)
  /-- The handlers of reads that were discarded, by their epochs. -/
  discarded : List Nat
  /-- The datagrams that were handed over. -/
  handed : List Parcel
  /-- Those whose completions were dropped. -/
  lost : List Parcel

/-- A bridge with its surroundings. -/
structure World (φ σ : Type) where
  /-- The bridge as its last turn left it, unless it has ended. -/
  bridge : Option (Loop φ σ)
  /-- What is still to be done of that turn. -/
  ahead : List Effect
  /-- The messages that wait, the oldest first. -/
  channel : List Item
  /-- The handlers of reads that the host holds, by their epochs. -/
  reads : List Nat
  /-- The writes whose completions the sessions hold. -/
  writes : List Parcel
  /-- What has happened. -/
  log : Log φ σ

/-- Something that a bridge does next or that happens around it. -/
inductive WorldStep where
  /-- Somebody makes a request. -/
  | ask (request : Request)
  /-- The bridge goes on with its turn. -/
  | act
  /-- The bridge takes the oldest message. -/
  | take (now : Nat)
  /-- The bridge takes up what a session handle reported. -/
  | hear (now : Nat) (n : Notification)
  /-- The timer of the bridge ticks. -/
  | tick (now : Nat)
  /-- The host calls the handler of a read. -/
  | read (index : Nat) (packets : List Packet)
  /-- The host discards the handler of a read. -/
  | discard (index : Nat)
  /-- The completion of a write is called. -/
  | finish (index : Nat) (result : WriteResult)
  /-- The completion of a write is dropped. -/
  | lose (index : Nat)

namespace World

/-- A bridge that was not asked for anything. -/
def fresh (workshop : φ) (period : Nat) : World φ σ :=
  ⟨some (.fresh workshop period), [], [], [], [], ⟨[], [], [], [], [], []⟩⟩

/-- The number of the engine that runs. -/
def running (w : World φ σ) : Option Nat :=
  w.bridge.bind fun l => l.actor.engine.map (·.number)

/-- Send a message. -/
def send (w : World φ σ) (item : Item) : World φ σ :=
  { w with channel := w.channel ++ [item], log := { w.log with sent := w.log.sent ++ [item] } }

/-- Hand a datagram to a session handle. -/
def hand (w : World φ σ) (generation : Nat) (datagram : Packet) (tag : WriteTag) : World φ σ :=
  let parcel : Parcel := ⟨w.log.handed.length, w.running, generation, datagram, tag⟩
  { w with
    writes := w.writes ++ [parcel]
    log := { w.log with handed := w.log.handed ++ [parcel] } }

/-- Do what a bridge does. -/
def perform (w : World φ σ) : Effect → World φ σ
  | .post command => w.send ⟨command, none⟩
  | .readHost epoch => { w with reads := w.reads ++ [epoch] }
  | .session (.write generation datagram tag) => w.hand generation datagram tag
  | _ => w

/-- Begin a turn. -/
def work (k : Kind φ σ) (w : World φ σ) (l : Loop φ σ) (now : Nat) (m : Message) : World φ σ :=
  { w with
    bridge := (l.worked k now m).after
    ahead := (l.worked k now m).effects
    log := { w.log with record := w.log.record ++ [l.worked k now m] } }

/-- Take the oldest message, with the messages that come after it. -/
def took (w : World φ σ) (item : Item) (rest : List Item) : World φ σ :=
  { w with
    channel := rest
    log := { w.log with taken := w.log.taken ++ [(w.running, item)] } }

/-- Take a step. -/
def step (k : Kind φ σ) (w : World φ σ) : WorldStep → World φ σ
  | .ask request => w.send ⟨request.command, none⟩
  | .act =>
    match w.ahead with
    | [] => w
    | x :: rest => { w with ahead := rest }.perform x
  | .take now =>
    match w.bridge, w.ahead, w.channel with
    | some l, [], item :: rest => (w.took item rest).work k l now (.command item.command)
    | _, _, _ => w
  | .hear now n =>
    match w.bridge, w.ahead with
    | some l, [] => w.work k l now (.notification n)
    | _, _ => w
  | .tick now =>
    match w.bridge, w.ahead with
    | some l, [] => w.work k l now .tick
    | _, _ => w
  | .read index packets =>
    match w.reads[index]? with
    | none => w
    | some epoch =>
      { w with reads := w.reads.eraseIdx index }.send ⟨.hostPackets epoch packets, none⟩
  | .discard index =>
    match w.reads[index]? with
    | none => w
    | some epoch =>
      { w with
        reads := w.reads.eraseIdx index
        log := { w.log with discarded := w.log.discarded ++ [epoch] } }
  | .finish index result =>
    match w.writes[index]? with
    | none => w
    | some parcel =>
      { w with writes := w.writes.eraseIdx index }.send ⟨.written parcel.tag result, some parcel⟩
  | .lose index =>
    match w.writes[index]? with
    | none => w
    | some parcel =>
      { w with
        writes := w.writes.eraseIdx index
        log := { w.log with lost := w.log.lost ++ [parcel] } }

/-- Take steps one after the other. -/
def run (k : Kind φ σ) (w : World φ σ) : List WorldStep → World φ σ
  | [] => w
  | x :: rest => (w.step k x).run k rest

theorem record_work (k : Kind φ σ) (w : World φ σ) (l : Loop φ σ) (now : Nat) (m : Message) :
    (w.work k l now m).log.record = w.log.record ++ [l.worked k now m] := rfl

/-- What a step comes to. -/
inductive Happens (k : Kind φ σ) (w : World φ σ) : World φ σ → Prop where
  /-- Nothing comes of it. -/
  | idle : Happens k w w
  /-- A request is sent. -/
  | asked (request : Request) : Happens k w (w.send ⟨request.command, none⟩)
  /-- Something is done. -/
  | acted {x : Effect} {rest : List Effect} (hahead : w.ahead = x :: rest) :
    Happens k w ({ w with ahead := rest }.perform x)
  /-- A message is taken. -/
  | took {l : Loop φ σ} {item : Item} {rest : List Item} (hbridge : w.bridge = some l)
    (hahead : w.ahead = []) (hchannel : w.channel = item :: rest) (now : Nat) :
    Happens k w ((w.took item rest).work k l now (.command item.command))
  /-- A report or a tick is taken up. -/
  | told {l : Loop φ σ} {m : Message} (hbridge : w.bridge = some l) (hahead : w.ahead = [])
    (hm : ∀ c, m ≠ .command c) (now : Nat) : Happens k w (w.work k l now m)
  /-- Packets were read. -/
  | read {index epoch : Nat} (hread : w.reads[index]? = some epoch) (packets : List Packet) :
    Happens k w ({ w with reads := w.reads.eraseIdx index }.send ⟨.hostPackets epoch packets, none⟩)
  /-- No packets will be read. -/
  | discarded {index epoch : Nat} (hread : w.reads[index]? = some epoch) :
    Happens k w { w with
      reads := w.reads.eraseIdx index
      log := { w.log with discarded := w.log.discarded ++ [epoch] } }
  /-- A write has ended. -/
  | finished {index : Nat} {parcel : Parcel} (hwrite : w.writes[index]? = some parcel)
    (result : WriteResult) :
    Happens k w ({ w with writes := w.writes.eraseIdx index }.send
      ⟨.written parcel.tag result, some parcel⟩)
  /-- Nobody will know how a write has ended. -/
  | lost {index : Nat} {parcel : Parcel} (hwrite : w.writes[index]? = some parcel) :
    Happens k w { w with
      writes := w.writes.eraseIdx index
      log := { w.log with lost := w.log.lost ++ [parcel] } }

theorem happens_step (k : Kind φ σ) (w : World φ σ) (x : WorldStep) :
    Happens k w (w.step k x) := by
  cases x with
  | ask request => exact .asked request
  | act =>
    simp only [step]
    split
    · exact .idle
    · next x rest hahead => exact .acted hahead
  | take now =>
    simp only [step]
    split
    · next l item rest hbridge hahead hchannel => exact .took hbridge hahead hchannel now
    · exact .idle
  | hear now n =>
    simp only [step]
    split
    · next l hbridge hahead => exact .told hbridge hahead (fun _ heq => by cases heq) now
    · exact .idle
  | tick now =>
    simp only [step]
    split
    · next l hbridge hahead => exact .told hbridge hahead (fun _ heq => by cases heq) now
    · exact .idle
  | read index packets =>
    simp only [step]
    split
    · exact .idle
    · next epoch hread => exact .read hread packets
  | discard index =>
    simp only [step]
    split
    · exact .idle
    · next epoch hread => exact .discarded hread
  | finish index result =>
    simp only [step]
    split
    · exact .idle
    · next parcel hwrite => exact .finished hwrite result
  | lose index =>
    simp only [step]
    split
    · exact .idle
    · next parcel hwrite => exact .lost hwrite

/-- What holds at first and is kept whatever happens holds after all steps. -/
theorem run_kept {k : Kind φ σ} {I : World φ σ → Prop}
    (hstep : ∀ {w next : World φ σ}, I w → Happens k w next → I next) {w : World φ σ} (h : I w)
    (steps : List WorldStep) : I (w.run k steps) := by
  induction steps generalizing w with
  | nil => exact h
  | cons x rest ih => exact ih (hstep h (happens_step k w x))

end World

/-- What is taken out of a list is the one thing that is missing then. -/
theorem perm_eraseIdx {α : Type} {l : List α} {index : Nat} {x : α} (h : l[index]? = some x) :
    (x :: l.eraseIdx index).Perm l := by
  obtain ⟨hlt, rfl⟩ := List.getElem?_eq_some_iff.mp h
  exact List.getElem_cons_eraseIdx_perm hlt

/-- What an engine of an epoch put out that a message is about. -/
def Item.emission? (epoch : Nat) (item : Item) : Option Emission :=
  Effect.posted? epoch (.post item.command)

/-- The packets that were read for an epoch, if a message is about those. -/
def Item.batch? (epoch : Nat) (item : Item) : Option (List Packet) :=
  match item.command with
  | .hostPackets e packets => if e = epoch then some packets else none
  | _ => none

/-- Whether a bridge sends itself only what engines put out. -/
def Posting (effects : List Effect) : Prop :=
  ∀ c, .post c ∈ effects → ∃ epoch emission, c = .emitted epoch emission

theorem Posting.append {effects more : List Effect} (h : Posting effects) (hmore : Posting more) :
    Posting (effects ++ more) :=
  fun c hmem => (List.mem_append.mp hmem).elim (h c) (hmore c)

theorem Actor.Move.posting {a b : Actor φ σ} {effects : List Effect} {broken : Bool}
    (h : a.Move k effects broken b) : Posting effects := by
  intro c hmem
  cases h with
  | plain effects traffic hplain => exact (hplain _ hmem).elim
  | cleared | unfit | sent | notified => simp [Actor.cancels] at hmem
  | closed | closeBroken | started | refused | initBroken | called | callBroken =>
    simp [Actor.cancels, Live.shutDown, Actor.attempted, Actor.posts] at hmem
    obtain ⟨emission, -, rfl⟩ := hmem
    exact ⟨_, _, rfl⟩

/-- A series of moves sends nothing else. -/
theorem Actor.Moves.posting {a b : Actor φ σ} {effects : List Effect} {broken : Bool}
    (h : a.Moves k effects broken b) : Posting effects := by
  induction h with
  | nil => exact fun c hmem => absurd hmem List.not_mem_nil
  | cons first rest ih => exact first.posting.append ih
  | broken last => exact last.posting

/-- Nor does work on a message. -/
theorem Loop.posting_worked (k : Kind φ σ) (l : Loop φ σ) (now : Nat) (m : Message) :
    Posting (l.worked k now m).effects := by
  have hturn : Posting (l.turn k m).effects := (moved_turn k l m).posting
  have hdrop : Posting (dropEngine (l.turn k m).actor) := by
    intro c hmem
    rw [dropEngine] at hmem
    split at hmem <;> simp at hmem
  rcases work_cases k l now m with ⟨next, hwork, -⟩ | ⟨hwork, -⟩ | hwork
  · simpa only [worked, hwork] using hturn
  · simpa only [worked, hwork] using hturn
  · simpa only [worked, hwork] using hturn.append hdrop

namespace World

/-- The turns on record are a run of the bridge, the messages come out of the channel in the order
in which they were sent. -/
structure Sound (k : Kind φ σ) (workshop : φ) (period : Nat) (w : World φ σ) : Prop where
  /-- The turns are a run. -/
  run : Loop.Run k (.fresh workshop period) w.log.record w.bridge
  /-- Messages are taken in the order in which they were sent. -/
  order : w.log.taken.map Prod.snd ++ w.channel = w.log.sent
  /-- What the engine of an epoch puts out was sent, or is still to be sent in this turn. -/
  posted : ∀ e, w.log.sent.filterMap (Item.emission? e) ++ Bridge.posted e w.ahead =
    Bridge.posted e (Loop.effectsOf w.log.record)
  /-- Nothing else is sent by the bridge itself. -/
  posting : Posting w.ahead

namespace Sound

variable {k : Kind φ σ} {workshop : φ} {period : Nat} {w next : World φ σ}

theorem fresh (k : Kind φ σ) (workshop : φ) (period : Nat) :
    Sound k workshop period (.fresh workshop period) := by
  refine ⟨.nil, rfl, fun e => rfl, fun c hmem => ?_⟩
  simp [World.fresh] at hmem

/-- A message that is not something that an engine put out may be sent. -/
theorem send (h : Sound k workshop period w) {item : Item}
    (hitem : ∀ e, item.emission? e = none) : Sound k workshop period (w.send item) := by
  refine ⟨h.run, ?_, fun e => ?_, h.posting⟩
  · simp [World.send, ← h.order]
  · have hposted := h.posted e
    simpa [World.send, hitem] using hposted

/-- A turn may begin. -/
theorem work (h : Sound k workshop period w) {l : Loop φ σ} (hbridge : w.bridge = some l)
    (hahead : w.ahead = []) (now : Nat) (m : Message) :
    Sound k workshop period (w.work k l now m) := by
  have hrun := h.run
  rw [hbridge] at hrun
  refine ⟨hrun.snoc now m, h.order, fun e => ?_, Loop.posting_worked k l now m⟩
  have hposted := h.posted e
  simp only [hahead, World.work, Loop.effectsOf_append, Loop.effectsOf_singleton, posted_append,
    ← hposted]
  simp [Bridge.posted]

/-- A turn goes on. -/
theorem perform (h : Sound k workshop period w) {x : Effect} {rest : List Effect}
    (hahead : w.ahead = x :: rest) :
    Sound k workshop period ({ w with ahead := rest }.perform x) := by
  have hrest : Posting rest := fun c hmem => h.posting c (hahead ▸ List.mem_cons_of_mem x hmem)
  have hposted (e : Nat) : w.log.sent.filterMap (Item.emission? e) ++
      ((Effect.posted? e x).toList ++ Bridge.posted e rest) =
        Bridge.posted e (Loop.effectsOf w.log.record) := by
    have hall := h.posted e
    rw [hahead] at hall
    rcases hx : Effect.posted? e x with _ | emission <;> simpa [Bridge.posted, hx] using hall
  have hquiet (hx : ∀ e, Effect.posted? e x = none) (e : Nat) :
      w.log.sent.filterMap (Item.emission? e) ++ Bridge.posted e rest =
        Bridge.posted e (Loop.effectsOf w.log.record) := by
    simpa [hx] using hposted e
  cases x with
  | post c =>
    refine ⟨h.run, ?_, fun e => ?_, hrest⟩
    · simp [World.perform, World.send, ← h.order]
    · have hall := hposted e
      rcases hc : Effect.posted? e (.post c) with _ | emission <;>
        simpa [World.perform, World.send, Item.emission?, hc] using hall
  | readHost epoch => exact ⟨h.run, h.order, hquiet fun _ => rfl, hrest⟩
  | session effect =>
    cases effect with
    | write => exact ⟨h.run, h.order, hquiet fun _ => rfl, hrest⟩
    | create | upgrade | cancel => exact ⟨h.run, h.order, hquiet fun _ => rfl, hrest⟩
  | engine | writeHost | started | traffic | sessions =>
    exact ⟨h.run, h.order, hquiet fun _ => rfl, hrest⟩

/-- All of it is kept. -/
theorem step (h : Sound k workshop period w) (hnext : Happens k w next) :
    Sound k workshop period next := by
  cases hnext with
  | idle => exact h
  | asked request => exact h.send fun e => by cases request <;> rfl
  | acted hahead => exact h.perform hahead
  | @took l item rest hbridge hahead hchannel now =>
    have htook : Sound k workshop period (w.took item rest) := by
      refine ⟨h.run, ?_, h.posted, h.posting⟩
      simp [World.took, ← h.order, hchannel]
    exact htook.work hbridge hahead now _
  | told hbridge hahead _ now => exact h.work hbridge hahead now _
  | @read index =>
    have hread : Sound k workshop period { w with reads := w.reads.eraseIdx index } :=
      ⟨h.run, h.order, h.posted, h.posting⟩
    exact hread.send fun e => rfl
  | discarded | lost => exact ⟨h.run, h.order, h.posted, h.posting⟩
  | @finished index =>
    have hended : Sound k workshop period { w with writes := w.writes.eraseIdx index } :=
      ⟨h.run, h.order, h.posted, h.posting⟩
    exact hended.send fun e => rfl

end Sound

/-- How things stand with the engines. -/
theorem Sound.conversation {k : Kind φ σ} {workshop : φ} {period : Nat} {w : World φ σ}
    (h : Sound k workshop period w) {l : Loop φ σ} (hbridge : w.bridge = some l) :
    Conversation k (Loop.effectsOf w.log.record) (handedTo · w.log.record) l.actor := by
  obtain ⟨a, hconversation, hactor⟩ := h.run.conversation
  exact hactor l hbridge ▸ hconversation

/-- Whatever happens around a bridge, its turns are a run and no message is lost. -/
theorem sound_run (k : Kind φ σ) (workshop : φ) (period : Nat) (steps : List WorldStep) :
    Sound k workshop period ((fresh workshop period).run k steps) :=
  run_kept Sound.step (.fresh k workshop period) steps

end World

end PacketTunnel.Bridge
