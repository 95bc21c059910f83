import PacketTunnel.Proofs.ReadReports

/-!
# Reading with one buffer

A session asks its socket for one datagram after the other and receives all of them in the same
buffer: a datagram overwrites the front of it, and what was there before stays behind it. Only what
the socket says it wrote is copied out, so nothing of earlier datagrams is ever reported, and the
loop that goes from one answer of the socket to the next reports what is reported of the answers
together.
-/

namespace PacketTunnel.Session

/-- A receipt by a buffer of some size: what does not fit in there is lost. -/
def Receipt.cut (size : Nat) : Receipt → Receipt
  | datagram packet => datagram (packet.take size)
  | nothing => nothing
  | failure cause => failure cause

/-- A buffer of the size of the largest datagram loses nothing. -/
theorem Receipt.map_cut_eq {size : Nat} {receipts : List Receipt}
    (h : ∀ packet, datagram packet ∈ receipts → packet.length ≤ size) :
    receipts.map (cut size) = receipts := by
  refine (List.map_congr_left fun r hr => ?_).trans receipts.map_id
  cases r with
  | datagram packet => exact congrArg datagram (List.take_of_length_le (h packet hr))
  | nothing => rfl
  | failure cause => rfl

/-- A buffer with a datagram written over the front of it. -/
def overwrite (buffer packet : List UInt8) : List UInt8 :=
  packet.take buffer.length ++ buffer.drop packet.length

theorem length_overwrite (buffer packet : List UInt8) :
    (overwrite buffer packet).length = buffer.length := by
  rw [overwrite, List.length_append, List.length_take, List.length_drop]
  omega

/-- As much as was written is the datagram, as far as it fits. -/
theorem take_overwrite (buffer packet : List UInt8) :
    (overwrite buffer packet).take (min packet.length buffer.length) =
      packet.take buffer.length := by
  rw [overwrite, Nat.min_comm]
  exact List.take_left' (List.length_take ..)

/-- The loop that reads from a socket. -/
structure ReadLoop where
  /-- The buffer with what is left in it. -/
  buffer : List UInt8
  /-- The batch at hand. There is none while the loop waits for a first datagram. -/
  batch : List Packet

namespace ReadLoop

/-- Report the batch at hand. -/
def flush (l : ReadLoop) : List Event := if l.batch = [] then [] else [.datagrams l.batch]

/-- Take up what the socket yields: a datagram goes to the batch, which is reported when it is full
or when something else comes. -/
def step (limit : Nat) (l : ReadLoop) : Receipt → ReadLoop × List Event
  | .datagram packet =>
    let buffer := overwrite l.buffer packet
    let batch := l.batch ++ [buffer.take (min packet.length l.buffer.length)]
    if batch.length < limit then (⟨buffer, batch⟩, []) else (⟨buffer, []⟩, [.datagrams batch])
  | .nothing => (⟨l.buffer, []⟩, l.flush)
  | .failure cause => (⟨l.buffer, []⟩, Receipt.report cause :: l.flush)

/-- Take up one receipt after the other. A batch is not kept when the socket is not asked again. -/
def run (limit : Nat) (l : ReadLoop) : List Receipt → List Event
  | [] => l.flush
  | receipt :: rest =>
    let (l, events) := l.step limit receipt
    events ++ l.run limit rest

/-- What is reported of what the socket yields when there is a batch at hand. -/
def gathering (limit : Nat) (batch : List Packet) (receipts : List Receipt) : List Event :=
  let more := Receipt.gather (limit - batch.length) receipts
  more.failure.toList.map Receipt.report ++
    .datagrams (batch ++ more.datagrams) :: Receipt.events limit more.rest

section Gathering

variable {limit : Nat} {batch : List Packet}

/-- The first datagram is a batch at hand. -/
theorem events_datagram (packet : Packet) (receipts : List Receipt) :
    Receipt.events limit (.datagram packet :: receipts) = gathering limit [packet] receipts := by
  rw [Receipt.events]
  rfl

/-- There is room for another one, and there may be none behind it. -/
theorem gathering_datagram (hroom : batch.length < limit) (packet : Packet)
    (receipts : List Receipt) : gathering limit batch (.datagram packet :: receipts) =
      gathering limit (batch ++ [packet]) receipts := by
  obtain ⟨room, hbefore⟩ := Nat.exists_eq_add_one_of_ne_zero (Nat.sub_ne_zero_of_lt hroom)
  have hbehind : limit - (batch ++ [packet]).length = room := by
    rw [List.length_append, List.length_singleton]
    omega
  simp only [gathering, hbefore, hbehind, Receipt.gather, List.append_assoc, List.cons_append,
    List.nil_append]

/-- A full batch is reported before the socket is asked again. -/
theorem gathering_full (hfull : limit ≤ batch.length) (receipts : List Receipt) :
    gathering limit batch receipts = .datagrams batch :: Receipt.events limit receipts := by
  simp only [gathering, Nat.sub_eq_zero_of_le hfull, Receipt.gather, List.append_nil,
    Option.toList_none, List.map_nil, List.nil_append]

/-- A batch is reported where nothing comes any more. -/
theorem gathering_nil (hroom : batch.length < limit) :
    gathering limit batch [] = [.datagrams batch] := by
  obtain ⟨room, hbefore⟩ := Nat.exists_eq_add_one_of_ne_zero (Nat.sub_ne_zero_of_lt hroom)
  simp only [gathering, hbefore, Receipt.gather, List.append_nil, Option.toList_none,
    List.map_nil, List.nil_append, Receipt.events]

/-- A batch is reported where nothing is there. -/
theorem gathering_nothing (hroom : batch.length < limit) (receipts : List Receipt) :
    gathering limit batch (.nothing :: receipts) =
      .datagrams batch :: Receipt.events limit receipts := by
  obtain ⟨room, hbefore⟩ := Nat.exists_eq_add_one_of_ne_zero (Nat.sub_ne_zero_of_lt hroom)
  simp only [gathering, hbefore, Receipt.gather, List.append_nil, Option.toList_none,
    List.map_nil, List.nil_append]

/-- A batch is reported behind the failure that breaks it off. -/
theorem gathering_failure (hroom : batch.length < limit) (cause : Failure)
    (receipts : List Receipt) : gathering limit batch (.failure cause :: receipts) =
      Receipt.report cause :: .datagrams batch :: Receipt.events limit receipts := by
  obtain ⟨room, hbefore⟩ := Nat.exists_eq_add_one_of_ne_zero (Nat.sub_ne_zero_of_lt hroom)
  simp only [gathering, hbefore, Receipt.gather, List.append_nil, Option.toList_some,
    List.map_cons, List.map_nil, List.cons_append, List.nil_append]

end Gathering

/-- What is reported of what the socket yields, with the batch at hand if there is one. -/
def owed (limit : Nat) (l : ReadLoop) (receipts : List Receipt) : List Event :=
  if l.batch = [] then Receipt.events limit receipts else gathering limit l.batch receipts

section Owed

variable {limit : Nat} {l : ReadLoop}

theorem owed_nil (hroom : l.batch.length < limit) : l.owed limit [] = l.flush := by
  by_cases hbatch : l.batch = []
  · rw [owed, if_pos hbatch, flush, if_pos hbatch, Receipt.events]
  · rw [owed, if_neg hbatch, flush, if_neg hbatch, gathering_nil hroom]

theorem owed_nothing (hroom : l.batch.length < limit) (receipts : List Receipt) :
    l.owed limit (.nothing :: receipts) = l.flush ++ Receipt.events limit receipts := by
  by_cases hbatch : l.batch = []
  · rw [owed, if_pos hbatch, flush, if_pos hbatch, Receipt.events, List.nil_append]
  · rw [owed, if_neg hbatch, flush, if_neg hbatch, gathering_nothing hroom, List.singleton_append]

theorem owed_failure (hroom : l.batch.length < limit) (cause : Failure) (receipts : List Receipt) :
    l.owed limit (.failure cause :: receipts) =
      Receipt.report cause :: (l.flush ++ Receipt.events limit receipts) := by
  by_cases hbatch : l.batch = []
  · rw [owed, if_pos hbatch, flush, if_pos hbatch, Receipt.events, List.nil_append]
  · rw [owed, if_neg hbatch, flush, if_neg hbatch, gathering_failure hroom, List.singleton_append]

theorem owed_datagram (hroom : l.batch.length < limit) (packet : Packet)
    (receipts : List Receipt) : l.owed limit (.datagram packet :: receipts) =
      gathering limit (l.batch ++ [packet]) receipts := by
  by_cases hbatch : l.batch = []
  · rw [owed, if_pos hbatch, hbatch, events_datagram, List.nil_append]
  · rw [owed, if_neg hbatch, gathering_datagram hroom]

end Owed

/-- A loop without a batch owes the reports on what comes. -/
theorem owed_empty (limit : Nat) (buffer : List UInt8) (receipts : List Receipt) :
    owed limit ⟨buffer, []⟩ receipts = Receipt.events limit receipts := if_pos rfl

/-- A loop reports on what its buffer receives, together with the batch at hand. -/
theorem run_eq {limit : Nat} (hlimit : 0 < limit) (l : ReadLoop) (receipts : List Receipt)
    (hroom : l.batch.length < limit) :
    l.run limit receipts = l.owed limit (receipts.map (Receipt.cut l.buffer.length)) := by
  induction receipts generalizing l with
  | nil => exact (owed_nil hroom).symm
  | cons receipt receipts ih =>
    rw [List.map_cons, run]
    have hempty : run limit ⟨l.buffer, []⟩ receipts =
        Receipt.events limit (receipts.map (Receipt.cut l.buffer.length)) :=
      (ih ⟨l.buffer, []⟩ hlimit).trans (owed_empty ..)
    cases receipt with
    | nothing =>
      rw [Receipt.cut, owed_nothing hroom, ← hempty]
      rfl
    | failure cause =>
      rw [Receipt.cut, owed_failure hroom, ← hempty]
      rfl
    | datagram packet =>
      -- What is copied out of the buffer is what the buffer has room for.
      have hcopy := take_overwrite l.buffer packet
      have hsize := length_overwrite l.buffer packet
      rw [Receipt.cut, owed_datagram hroom]
      simp only [step, hcopy]
      by_cases hmore : (l.batch ++ [packet.take l.buffer.length]).length < limit
      · have hrest := ih ⟨overwrite l.buffer packet, l.batch ++ [packet.take l.buffer.length]⟩ hmore
        rw [owed, if_neg (List.append_ne_nil_of_right_ne_nil _ (List.cons_ne_nil _ _)), hsize]
          at hrest
        rw [if_pos hmore]
        exact hrest
      · rw [if_neg hmore, gathering_full (Nat.not_lt.mp hmore),
          ih ⟨overwrite l.buffer packet, []⟩ hlimit, owed_empty, hsize]
        rfl

/-- A loop that waits for datagrams which fit in its buffer reports on them as they are, whatever
is left in the buffer. -/
theorem run_eq_events {limit : Nat} (hlimit : 0 < limit) {buffer : List UInt8}
    {receipts : List Receipt}
    (hfits : ∀ packet, .datagram packet ∈ receipts → packet.length ≤ buffer.length) :
    run limit ⟨buffer, []⟩ receipts = Receipt.events limit receipts := by
  rw [run_eq hlimit ⟨buffer, []⟩ receipts hlimit, owed_empty, Receipt.map_cut_eq hfits]

/-- A short datagram behind a long one, and a failure behind both. -/
example : run 3 ⟨[0, 0, 0], []⟩ [.datagram [1, 2, 3], .datagram [4], .failure (.system 111)] =
    [.readError "Connection refused (os error 111)", .datagrams [[1, 2, 3], [4]]] := by
  decide

end ReadLoop

end PacketTunnel.Session
