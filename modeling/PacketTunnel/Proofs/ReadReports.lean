import PacketTunnel.Proofs.SessionRun
import PacketTunnel.Session.Receipt

/-!
# What is reported of what is read

Datagrams are reported in batches, and failures between them. A batch is never empty and never
longer than the limit, and a failure that comes while a batch is gathered is reported in front of
it. All batches together are what the socket yielded: reading stops at the end of a batch for one
of three reasons, and each of them leaves the socket where the next batch goes on.
-/

namespace PacketTunnel.Session

/-- The text of a report that reading failed. -/
def Event.readError? : Event → Option String
  | .readError reason => some reason
  | _ => none

/-- The datagrams that are delivered by reports, in order. -/
def deliveredBy (events : List Event) : List Packet := (events.filterMap Event.datagrams?).flatten

theorem deliveredBy_append (events more : List Event) :
    deliveredBy (events ++ more) = deliveredBy events ++ deliveredBy more := by
  rw [deliveredBy, List.filterMap_append, List.flatten_append]
  rfl

namespace Receipt

/-- The datagram that a socket yielded, if it did. -/
def datagram? : Receipt → Option Packet
  | datagram packet => some packet
  | _ => none

/-- The failure that a socket yielded, if it did. -/
def failure? : Receipt → Option Failure
  | failure cause => some cause
  | _ => none

/-- Reports on what a socket yielded. -/
inductive Reports (limit : Nat) : List Receipt → List Event → Prop
  /-- There is nothing to report. -/
  | nil : Reports limit [] []
  /-- Nothing was there. -/
  | nothing {receipts : List Receipt} {events : List Event} (rest : Reports limit receipts events) :
      Reports limit (.nothing :: receipts) events
  /-- Receiving failed. -/
  | failure (cause : Failure) {receipts : List Receipt} {events : List Event}
      (rest : Reports limit receipts events) :
      Reports limit (.failure cause :: receipts) (report cause :: events)
  /-- Some datagrams came in. -/
  | batch {batch : List Packet} (ne_nil : batch ≠ []) (length_le : batch.length ≤ limit)
      {receipts : List Receipt} {events : List Event} (rest : Reports limit receipts events) :
      Reports limit (batch.map .datagram ++ receipts) (.datagrams batch :: events)
  /-- Some datagrams came in, and then receiving failed. -/
  | broken {batch : List Packet} (ne_nil : batch ≠ []) (length_le : batch.length ≤ limit)
      (cause : Failure) {receipts : List Receipt} {events : List Event}
      (rest : Reports limit receipts events) :
      Reports limit (batch.map .datagram ++ .failure cause :: receipts)
        (report cause :: .datagrams batch :: events)

/-- Why a batch is not gathered any further. -/
inductive Stop : Option Failure → List Receipt → Prop
  /-- There is no room, or the socket was not asked again. -/
  | full : Stop none []
  /-- Nothing more is there. -/
  | dry : Stop none [.nothing]
  /-- Receiving failed. -/
  | broken (cause : Failure) : Stop (some cause) [.failure cause]

/-- Gathering takes datagrams off the front as far as there is room, and what stopped it. -/
theorem exists_stop (room : Nat) (receipts : List Receipt) :
    ∃ stop, Stop (gather room receipts).failure stop ∧
      receipts = (gather room receipts).datagrams.map .datagram ++
        (stop ++ (gather room receipts).rest) ∧
      (gather room receipts).datagrams.length ≤ room := by
  fun_induction gather room receipts with
  | case1 rest => exact ⟨[], .full, rfl, Nat.le_refl _⟩
  | case2 => exact ⟨[], .full, rfl, Nat.zero_le _⟩
  | case3 room packet rest more ih =>
    obtain ⟨stop, hstop, hrest, hlength⟩ := ih
    exact ⟨stop, hstop, congrArg (.datagram packet :: ·) hrest, Nat.succ_le_succ hlength⟩
  | case4 room rest => exact ⟨[.nothing], .dry, rfl, Nat.zero_le _⟩
  | case5 room cause rest => exact ⟨[.failure cause], .broken cause, rfl, Nat.zero_le _⟩

/-- What is reported is a report on what was yielded. -/
theorem reports_events {limit : Nat} (hlimit : 0 < limit) (receipts : List Receipt) :
    Reports limit receipts (events limit receipts) := by
  fun_induction events limit receipts with
  | case1 => exact .nil
  | case2 rest ih => exact .nothing ih
  | case3 cause rest ih => exact .failure cause ih
  | case4 packet rest more ih =>
    obtain ⟨stop, hstop, hrest, hlength⟩ := exists_stop (limit - 1) rest
    change Stop more.failure stop at hstop
    change rest = more.datagrams.map .datagram ++ (stop ++ more.rest) at hrest
    have hbatch : (packet :: more.datagrams).length ≤ limit := by
      rw [List.length_cons]
      exact Nat.le_trans (Nat.succ_le_succ hlength) (by omega)
    generalize more.failure = failure at hstop
    rw [hrest, ← List.cons_append, ← List.map_cons]
    cases hstop with
    | full => exact .batch (List.cons_ne_nil _ _) hbatch ih
    | dry => exact .batch (List.cons_ne_nil _ _) hbatch (.nothing ih)
    | broken cause => exact .broken (List.cons_ne_nil _ _) hbatch cause ih

namespace Reports

variable {limit : Nat} {receipts : List Receipt} {events : List Event}

/-- Reports on one stretch after the other. -/
theorem append (h : Reports limit receipts events) {later : List Receipt} {more : List Event}
    (hmore : Reports limit later more) : Reports limit (receipts ++ later) (events ++ more) := by
  induction h with
  | nil => exact hmore
  | nothing _ ih => exact .nothing ih
  | failure cause _ ih => exact .failure cause ih
  | batch ne_nil length_le _ ih =>
    rw [List.append_assoc]
    exact .batch ne_nil length_le ih
  | broken ne_nil length_le cause _ ih =>
    rw [List.append_assoc]
    exact .broken ne_nil length_le cause ih

theorem filterMap_datagram? (batch : List Packet) :
    (batch.map Receipt.datagram).filterMap datagram? = batch := by
  rw [List.filterMap_map]
  exact List.filterMap_some

theorem filterMap_failure? (batch : List Packet) :
    (batch.map Receipt.datagram).filterMap failure? = [] := by
  rw [List.filterMap_map]
  exact List.filterMap_eq_nil_iff.mpr fun _ _ => rfl

/-- The batches hold the datagrams that came in, in order. -/
theorem delivered (h : Reports limit receipts events) :
    deliveredBy events = receipts.filterMap datagram? := by
  induction h with
  | nil => rfl
  | nothing _ ih => exact ih
  | failure _ _ ih => exact ih
  | @batch batch _ _ _ _ _ ih =>
    rw [List.filterMap_append, filterMap_datagram?]
    exact congrArg (batch ++ ·) ih
  | @broken batch _ _ _ _ _ _ ih =>
    rw [List.filterMap_append, filterMap_datagram?]
    exact congrArg (batch ++ ·) ih

/-- Each failure is reported once, and nothing else is reported as one. -/
theorem failures (h : Reports limit receipts events) :
    events.filterMap Event.readError? = (receipts.filterMap failure?).map Failure.message := by
  induction h with
  | nil => rfl
  | nothing _ ih => exact ih
  | failure cause _ ih => exact congrArg (cause.message :: ·) ih
  | batch _ _ _ ih =>
    rw [List.filterMap_append, filterMap_failure?]
    exact ih
  | broken _ _ cause _ ih =>
    rw [List.filterMap_append, filterMap_failure?]
    exact congrArg (cause.message :: ·) ih

/-- Batches are neither empty nor too long. -/
theorem bounded (h : Reports limit receipts events) {batch : List Packet}
    (hbatch : batch ∈ events.filterMap Event.datagrams?) :
    batch ≠ [] ∧ batch.length ≤ limit := by
  induction h with
  | nil => cases hbatch
  | nothing _ ih => exact ih hbatch
  | failure _ _ ih => exact ih hbatch
  | batch ne_nil length_le _ ih =>
    rcases List.mem_cons.mp hbatch with rfl | hrest
    · exact ⟨ne_nil, length_le⟩
    · exact ih hrest
  | broken ne_nil length_le _ _ ih =>
    rcases List.mem_cons.mp hbatch with rfl | hrest
    · exact ⟨ne_nil, length_le⟩
    · exact ih hrest

/-- Where a failure is behind some datagrams, it is so behind all of them. -/
theorem exists_of_datagrams {batch : List Packet} {rest before after : List Receipt}
    {cause : Failure}
    (h : batch.map .datagram ++ rest = before ++ Receipt.failure cause :: after) :
    ∃ more, before = batch.map .datagram ++ more ∧
      rest = more ++ Receipt.failure cause :: after := by
  induction batch generalizing before with
  | nil => exact ⟨before, rfl, h⟩
  | cons packet batch ih =>
    cases before with
    | nil => cases (List.cons.inj h).1
    | cons first before =>
      obtain ⟨rfl, hrest⟩ := List.cons.inj h
      obtain ⟨more, rfl, hmore⟩ := ih hrest
      exact ⟨more, rfl, hmore⟩

/-- A failure leaves what came before it and what comes later as it is: but for the report of it,
the reports are those on the one and then those on the other. Only the batch that it broke off is
still to come when it is reported. -/
theorem around_failure (h : Reports limit receipts events) {before after : List Receipt}
    {cause : Failure} (hreceipts : receipts = before ++ .failure cause :: after) :
    ∃ front batch back, batch.length ≤ 1 ∧ events = front ++ report cause :: (batch ++ back) ∧
      Reports limit before (front ++ batch) ∧ Reports limit after back := by
  induction h generalizing before with
  | nil => cases before <;> cases hreceipts
  | nothing rest ih =>
    cases before with
    | nil => cases (List.cons.inj hreceipts).1
    | cons first before =>
      obtain ⟨rfl, hrest⟩ := List.cons.inj hreceipts
      obtain ⟨front, batch, back, hlength, hevents, hbefore, hafter⟩ := ih hrest
      exact ⟨front, batch, back, hlength, hevents, .nothing hbefore, hafter⟩
  | failure other rest ih =>
    cases before with
    | nil =>
      obtain ⟨hcause, rfl⟩ := List.cons.inj hreceipts
      obtain rfl := Receipt.failure.inj hcause
      exact ⟨[], [], _, Nat.zero_le _, rfl, .nil, rest⟩
    | cons first before =>
      obtain ⟨rfl, hrest⟩ := List.cons.inj hreceipts
      obtain ⟨front, batch, back, hlength, rfl, hbefore, hafter⟩ := ih hrest
      exact ⟨report other :: front, batch, back, hlength, rfl, .failure other hbefore, hafter⟩
  | @batch packets ne_nil length_le _ _ rest ih =>
    obtain ⟨more, rfl, hrest⟩ := exists_of_datagrams hreceipts
    obtain ⟨front, batch, back, hlength, rfl, hbefore, hafter⟩ := ih hrest
    exact ⟨.datagrams packets :: front, batch, back, hlength, rfl,
      .batch ne_nil length_le hbefore, hafter⟩
  | @broken packets ne_nil length_le other _ _ rest ih =>
    obtain ⟨more, rfl, hrest⟩ := exists_of_datagrams hreceipts
    cases more with
    | nil =>
      obtain ⟨hcause, rfl⟩ := List.cons.inj hrest
      obtain rfl := Receipt.failure.inj hcause
      exact ⟨[], [.datagrams packets], _, Nat.le_refl _, rfl, .batch ne_nil length_le .nil, rest⟩
    | cons first more =>
      obtain ⟨rfl, hlater⟩ := List.cons.inj hrest
      obtain ⟨front, batch, back, hlength, rfl, hbefore, hafter⟩ := ih hlater
      exact ⟨report other :: .datagrams packets :: front, batch, back, hlength, rfl,
        .broken ne_nil length_le other hbefore, hafter⟩

end Reports

end Receipt

end PacketTunnel.Session
