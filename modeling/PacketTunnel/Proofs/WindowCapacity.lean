import PacketTunnel.Proofs.UuidNumber
import PacketTunnel.Proofs.WindowBound

/-!
# How a window outgrows its client

A client of a window of one never asks twice. A larger one may take up a request for more while what
an earlier refill brought is still there, and then the window holds more slots than it should: the
run that shows it has a push in the first refill, and takes up its request after the second.
-/

namespace PacketTunnel.Ipc

variable {ω : Type}

namespace Direct

/-- One client with nothing queued but replies, and its server. -/
def resting (n : Nat) (phase : Phase) (refill : Option Nat) (replies : List Reply)
    (slots : List (Slot Nat)) : Direct ω :=
  ⟨[⟨⟨phase, n, refill, [], replies⟩, true⟩], slots, []⟩

/-- Commands of a refill that the server keeps one by one. -/
def filling (ids : List Uuid) : List (SystemStep ω) := ids.flatMap fun id => [.task 0 id, .serve id]

/-- The slots that commands of a refill keep open. -/
def slotsOf (ids : List Uuid) : List (Slot Nat) := ids.map fun id => ⟨⟨id, .fillBuffer⟩, 0⟩

theorem ids_slotsOf (ids : List Uuid) : (slotsOf ids).map (·.command.id) = ids := by
  rw [slotsOf, List.map_map]
  exact List.map_id ids

/-- Commands of a refill with new identifiers make as many slots. -/
theorem run_filling {n count left : Nat} {replies : List Reply} {slots : List (Slot Nat)}
    {ids : List Uuid} (hcount : count = left + ids.length)
    (hids : (slots.map (·.command.id) ++ ids).Nodup) :
    ((resting n .fillingServerBuffer (some count) replies slots : Direct ω).run
      (filling ids)).1 =
        resting n .fillingServerBuffer (some left) replies (slots ++ slotsOf ids) := by
  induction ids generalizing count slots with
  | nil =>
    rw [slotsOf, List.map_nil, List.append_nil, hcount]
    rfl
  | cons id rest ih =>
    have hnew : ∀ slot ∈ slots, slot.command.id ≠ id := by
      intro slot hslot
      exact (List.nodup_append.mp hids).2.2 _ (List.mem_map_of_mem hslot) id List.mem_cons_self
    have hkeep : (Window.keep slots ⟨id, .fillBuffer⟩ 0 : Window.Progress Nat ω) = _ :=
      Window.keep_of_new hnew 0
    obtain rfl : count = left + rest.length + 1 := hcount
    have hstep : ((resting n .fillingServerBuffer (some (left + rest.length + 1)) replies
        slots : Direct ω).run [.task 0 id, .serve id]).1 =
        resting n .fillingServerBuffer (some (left + rest.length)) replies
          (slots ++ slotsOf [id]) := by
      show (Direct.serveStep ⟨_, slots, [.handle ⟨id, .fillBuffer⟩ 0]⟩).1 = _
      rw [serveStep_fill rfl, hkeep]
      rfl
    have hrest : ((slots ++ slotsOf [id]).map (·.command.id) ++ rest).Nodup := by
      rw [List.map_append, List.append_assoc]
      exact hids
    rw [filling, List.flatMap_cons, run_append, hstep]
    refine (ih rfl hrest).trans ?_
    rw [List.append_assoc]
    rfl

/-- A client stops and starts at once, so that its server starts over twice, and the first answer
begins a refill while the second one waits. -/
def restarting : List (SystemStep ω) :=
  [.start 0, .task 0 (.numbered 0), .stop 0, .task 0 (.numbered 0), .start 0, .task 0 (.numbered 0),
    .serve (.numbered 0), .serve (.numbered 0), .reply 0, .task 0 (.numbered 0)]

theorem run_restarting (n : Nat) :
    ((resting n .stopped none [] [] : Direct ω).run restarting).1 =
      resting n .fillingServerBuffer (some n) [.serverStarted] [] := rfl

/-- A push that the server runs at once. -/
def pushing (name : ω) : List (SystemStep ω) := [.push name "relay", .serve (.numbered 0)]

theorem run_pushing (n : Nat) (phase : Phase) (refill : Option Nat) (replies : List Reply)
    (first last : Command Action) (name : ω) :
    ((resting n phase refill replies [⟨first, 0⟩, ⟨last, 0⟩] : Direct ω).run (pushing name)).1 =
      resting n phase refill (replies ++ [.needBuffer] ++ [.reconnected "relay"]) [] := rfl

/-- A client that has filled its window stops and starts again, and the answer that waits begins
another refill. -/
def resuming : List (SystemStep ω) :=
  [.task 0 (.numbered 0), .stop 0, .task 0 (.numbered 0), .start 0, .task 0 (.numbered 0)] ++
    [.serve (.numbered 0), .reply 0, .task 0 (.numbered 0)]

theorem run_resuming (n : Nat) (replies : List Reply) (slots : List (Slot Nat)) :
    ((resting n .fillingServerBuffer (some 0) (.serverStarted :: replies) slots : Direct ω).run
      resuming).1 = resting n .fillingServerBuffer (some n) (replies ++ [.serverStarted]) [] := by
  have hstart : ((resting n .fillingServerBuffer (some 0) (.serverStarted :: replies) slots :
      Direct ω).run [.task 0 (.numbered 0), .stop 0, .task 0 (.numbered 0), .start 0,
        .task 0 (.numbered 0)]).1 =
      ⟨[⟨⟨.waitingForServerStart, n, none, [], .serverStarted :: replies⟩, true⟩], slots,
        [.handle ⟨.numbered 0, .start⟩ 0]⟩ := rfl
  rw [resuming, run_append, hstart, run, step, serveStep_start rfl]
  rfl

/-- A client that has filled its window takes up the request for more that waits. -/
def asking : List (SystemStep ω) := [.task 0 (.numbered 0), .reply 0, .task 0 (.numbered 0)]

theorem run_asking (n : Nat) (replies : List Reply) (slots : List (Slot Nat)) :
    ((resting n .fillingServerBuffer (some 0) (.needBuffer :: replies) slots : Direct ω).run
      asking).1 = resting n .fillingServerBuffer (some n) replies slots := rfl

/-- The request for more is made in the first refill and taken up after the second. -/
def overflowing (name : ω) (n : Nat) : List (SystemStep ω) :=
  restarting ++ filling [.numbered 0, .numbered 1] ++ pushing name ++
    filling ((List.range (n - 2)).map .numbered) ++ resuming ++
    filling ((List.range n).map .numbered) ++ asking ++ filling [.numbered n]

/-- Identifiers with different numbers are distinct. -/
theorem nodup_numbered {n : Nat} (hn : n ≤ 2 ^ 128) : ((List.range n).map Uuid.numbered).Nodup := by
  rw [List.nodup_iff_pairwise_ne, List.pairwise_map]
  refine List.nodup_range.imp_of_mem fun {i j} hi hj hne heq => hne ?_
  exact Uuid.eq_of_numbered_eq (Nat.lt_of_lt_of_le (List.mem_range.mp hi) hn)
    (Nat.lt_of_lt_of_le (List.mem_range.mp hj) hn) heq

/-- A refill that nobody disturbs fills an empty window with numbered slots. -/
theorem run_filling_numbered (n : Nat) {count : Nat} (hcount : count ≤ 2 ^ 128)
    (replies : List Reply) :
    ((resting n .fillingServerBuffer (some count) replies [] : Direct ω).run
      (filling ((List.range count).map .numbered))).1 =
        resting n .fillingServerBuffer (some 0) replies
          (slotsOf ((List.range count).map .numbered)) := by
  have hlength : count = 0 + ((List.range count).map Uuid.numbered).length := by
    rw [List.length_map, List.length_range, Nat.zero_add]
  exact run_filling hlength (nodup_numbered hcount)

/-- After this run the window holds one slot more than a refill brings. -/
theorem length_overflowing (name : ω) {n : Nat} (hlow : 2 ≤ n) (hhigh : n < 2 ^ 64) :
    ((resting n .stopped none [] [] : Direct ω).run (overflowing name n)).1.slots.length =
      n + 1 := by
  obtain ⟨m, rfl⟩ : ∃ m, n = m + 2 := ⟨n - 2, by omega⟩
  have hfirst : ((resting (m + 2) .fillingServerBuffer (some (m + 2)) [.serverStarted] [] :
      Direct ω).run (filling [.numbered 0, .numbered 1])).1 =
        resting (m + 2) .fillingServerBuffer (some m) [.serverStarted]
          (slotsOf [.numbered 0, .numbered 1]) := run_filling rfl (by decide)
  have hpush : ((resting (m + 2) .fillingServerBuffer (some m) [.serverStarted]
      (slotsOf [.numbered 0, .numbered 1]) : Direct ω).run (pushing name)).1 =
        resting (m + 2) .fillingServerBuffer (some m)
          [.serverStarted, .needBuffer, .reconnected "relay"] [] := run_pushing ..
  have hresume (slots : List (Slot Nat)) : ((resting (m + 2) .fillingServerBuffer (some 0)
      [.serverStarted, .needBuffer, .reconnected "relay"] slots : Direct ω).run resuming).1 =
        resting (m + 2) .fillingServerBuffer (some (m + 2))
          [.needBuffer, .reconnected "relay", .serverStarted] [] := run_resuming ..
  have hids : ((slotsOf ((List.range (m + 2)).map Uuid.numbered)).map (·.command.id) ++
      [Uuid.numbered (m + 2)]).Nodup := by
    rw [ids_slotsOf, ← List.map_singleton, ← List.map_append, ← List.range_succ]
    exact nodup_numbered (by omega)
  have hlast : ((resting (m + 2) .fillingServerBuffer (some (m + 2))
      [.reconnected "relay", .serverStarted] (slotsOf ((List.range (m + 2)).map .numbered)) :
        Direct ω).run (filling [.numbered (m + 2)])).1 = _ :=
    run_filling (show m + 2 = m + 1 + [Uuid.numbered (m + 2)].length from rfl) hids
  rw [overflowing, run_append, run_append, run_append, run_append, run_append, run_append,
    run_append, run_restarting, hfirst, hpush, Nat.add_sub_cancel,
    run_filling_numbered _ (by omega), hresume, run_filling_numbered _ (by omega), run_asking,
    hlast, resting, slotsOf, slotsOf, List.length_append, List.length_map, List.length_map,
    List.length_range]
  rfl

theorem steady_overflowing (name : ω) (n : Nat) : ∀ x ∈ overflowing name n, x.Steady := by
  have hfilling (ids : List Uuid) : ∀ x ∈ (filling ids : List (SystemStep ω)), x.Steady := by
    intro x hx
    obtain ⟨id, _, hid⟩ := List.mem_flatMap.mp hx
    rcases List.mem_cons.mp hid with rfl | hserve
    · exact trivial
    · rw [List.mem_singleton.mp hserve]
      exact trivial
  simp only [overflowing, List.forall_mem_append]
  refine ⟨⟨⟨⟨⟨⟨⟨?_, hfilling _⟩, ?_⟩, hfilling _⟩, ?_⟩, hfilling _⟩, ?_⟩, hfilling _⟩
  · simp [restarting, SystemStep.Steady]
  · simp [pushing, SystemStep.Steady]
  · simp [resuming, SystemStep.Steady]
  · simp [asking, SystemStep.Steady]

end Direct

namespace System

/-- With one client, the server never stopped and the transport never disconnected, the window holds
no more slots than a refill brings while every refill begins with nothing under way. This is always
so just if a refill brings one slot or none. -/
theorem buffered_le_iff [Inhabited ω] (n : Nat) :
    (∀ steps : List (SystemStep ω), (∀ x ∈ steps, x.Steady) → (fresh [n]).Separate steps →
      ((fresh [n]).run steps).1.server.buffered ≤ n) ∧
    (n < 2 ^ 64 → ((∀ steps : List (SystemStep ω), (∀ x ∈ steps, x.Steady) →
      ((fresh [n]).run steps).1.server.buffered ≤ n) ↔ n ≤ 1)) := by
  have hfresh : (fresh [n] : System ω).server.Running := SerialQueue.running_fresh []
  constructor
  · intro steps hsteps hseparate
    exact capacity_run hfresh (solo_fresh n) (capacity_fresh n) hsteps hseparate
  · intro hhigh
    constructor
    · intro hall
      rcases Nat.lt_or_ge 1 n with hmore | hlow
      · have hover := hall (Direct.overflowing default n) (Direct.steady_overflowing default n)
        have hstart : (fresh [n] : System ω).direct = Direct.resting n .stopped none [] [] := rfl
        have hlength := Direct.length_overflowing (default : ω) hmore hhigh
        rw [Server.buffered, ← direct_slots, direct_run hfresh, hstart, hlength] at hover
        exact absurd hover (Nat.not_succ_le_self n)
      · exact hlow
    · intro hlow steps hsteps
      have hunasked : Unasked (.fresh n) := ⟨List.not_mem_nil, List.not_mem_nil⟩
      have hseparate := separate_of_unasked hlow hfresh (solo_fresh n) (capacity_fresh n) hunasked
        hsteps
      exact capacity_run hfresh (solo_fresh n) (capacity_fresh n) hsteps hseparate

/-- A client fills its window of two, and again when a push has used up both slots. -/
def refillTwice : List (SystemStep Unit) :=
  [.start 0, .task 0 (.numbered 0), .serve (.numbered 0), .reply 0, .task 0 (.numbered 0),
    .task 0 (.numbered 1), .serve (.numbered 0), .task 0 (.numbered 2), .serve (.numbered 0),
    .task 0 (.numbered 0), .push () "relay", .serve (.numbered 0), .reply 0, .task 0 (.numbered 0),
    .task 0 (.numbered 3), .serve (.numbered 0), .task 0 (.numbered 4), .serve (.numbered 0)]

theorem separate_refillTwice : (fresh [2]).Separate refillTwice := by
  have hfresh : (fresh [2] : System Unit).server.Running := SerialQueue.running_fresh []
  rw [separate_direct hfresh]
  decide

/-- The window of two is in bounds after its second refill, but not in every run. -/
theorem buffered_refillTwice : ((fresh [2]).run refillTwice).1.server.buffered ≤ 2 ∧
    ¬ ∀ steps : List (SystemStep Unit), (∀ x ∈ steps, x.Steady) →
      ((fresh [2]).run steps).1.server.buffered ≤ 2 := by
  have hsteady : ∀ x ∈ refillTwice, x.Steady := by simp [refillTwice, SystemStep.Steady]
  constructor
  · exact (buffered_le_iff 2).1 refillTwice hsteady separate_refillTwice
  · intro hall
    have hlow := ((buffered_le_iff 2).2 (by decide)).mp hall
    exact absurd hlow (by decide)

/-- A window of two that nobody stops can hold three slots. -/
theorem not_always_bounded : ¬ ∀ n, 1 ≤ n → ∀ steps : List (SystemStep Unit),
    (∀ x ∈ steps, x.Steady) → ((fresh [n]).run steps).1.server.buffered ≤ n := by
  intro h
  have hfresh : (fresh [2] : System Unit).server.Running := SerialQueue.running_fresh []
  have hbounded := h 2 (by decide) (Direct.overflowing () 2) (Direct.steady_overflowing () 2)
  rw [Server.buffered, ← direct_slots, direct_run hfresh] at hbounded
  exact absurd hbounded (by decide)

end System

end PacketTunnel.Ipc
