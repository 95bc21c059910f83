import PacketTunnel.Proofs.SocketRun

/-!
# What sessions over sockets report of what they read

Nothing that a socket yields is lost, and nothing is reported twice: whatever the session does
between two reads, all batches together hold the datagrams that came in, in order. A failure is
reported once and changes nothing else. What was gathered before it is delivered, and the session
goes on to read.
-/

namespace PacketTunnel.Session

variable {κ : Type}

/-- News of a session deliver nothing. -/
theorem Phase.datagrams?_news (phase : Phase) : phase.news.filterMap Event.datagrams? = [] := by
  cases phase <;> rfl

theorem Phase.readError?_news (phase : Phase) : phase.news.filterMap Event.readError? = [] := by
  cases phase <;> rfl

namespace Socket

/-- The events among reports and other effects. -/
theorem filterMap_event?_report (events : List Event) :
    (events.map (SocketEffect.report (κ := κ))).filterMap SocketEffect.event? = events := by
  rw [List.filterMap_map]
  exact List.filterMap_some

/-- Whatever a session does with its socket, it reports on what it reads. -/
theorem Deed.reports_effects {limit : Nat} (hlimit : 0 < limit) (deeds : List (Deed κ)) :
    Receipt.Reports limit (deeds.flatMap receipts)
      ((deeds.flatMap (effects limit)).filterMap SocketEffect.event?) := by
  induction deeds with
  | nil => exact .nil
  | cons deed deeds ih =>
    rw [List.flatMap_cons, List.flatMap_cons, List.filterMap_append]
    cases deed with
    | served write => exact ih
    | read receipts =>
      rw [effects, filterMap_event?_report]
      exact (Receipt.reports_events hlimit receipts).append ih

/-- At every stage a session has reported its news and what it read. -/
theorem Stage.exists_reports {limit : Nat} {u : InUse κ} (h : Stage limit u) (hlimit : 0 < limit) :
    ∃ reads, u.events = u.socket.phase.news ++ reads ∧ Receipt.Reports limit u.yielded reads := by
  cases h with
  | fresh waiting => exact ⟨[], rfl, .nil⟩
  | connecting waiting => exact ⟨[], rfl, .nil⟩
  | failed cause done waiting =>
    refine ⟨[], ?_, .nil⟩
    have hquiet : (done.map fun call => SocketEffect.complete call.2
        (.error (.unavailable cause.restated))).filterMap SocketEffect.event? = [] := by
      rw [List.filterMap_map]
      exact List.filterMap_eq_nil_iff.mpr fun _ _ => rfl
    rw [InUse.events, List.filterMap_append, hquiet, filterMap_event?_report]
  | connected deeds waiting =>
    refine ⟨_, ?_, Deed.reports_effects hlimit deeds⟩
    rw [InUse.events, List.filterMap_append, filterMap_event?_report]

/-- A session that got a socket keeps it, with nothing in the way of reading. -/
theorem Stage.of_connected {limit : Nat} {u : InUse κ} (h : Stage limit u)
    (hconnection : u.connection = some (.ok ())) :
    u.socket.limit = limit ∧ u.socket.phase = .connected ∧ u.socket.ending = false := by
  cases h with
  | fresh | connecting | failed => cases hconnection
  | connected => exact ⟨rfl, rfl, rfl⟩

/-- A session that is told to begin and is granted a socket. -/
def InUse.granted (u : InUse κ) : InUse κ :=
  u.run [.turn .prepare, .turn (.connect (.ok ()))]

/-- If getting a socket has not ended before, it has one then, and has reported nothing else. -/
theorem Stage.of_granted {limit : Nat} {u : InUse κ} (h : Stage limit u)
    (hconnection : u.connection = none) : u.granted.connection = some (.ok ()) ∧
      u.granted.yielded = [] ∧ u.granted.events = Phase.connected.news := by
  cases h with
  | fresh | connecting => exact ⟨rfl, rfl, rfl⟩
  | failed | connected => cases hconnection

/-- A read takes what the socket yields, and reports on it. -/
theorem Stage.read {limit : Nat} {u : InUse κ} (h : Stage limit u)
    (hconnection : u.connection = some (.ok ())) (receipts : List Receipt) :
    (u.move (.turn (.receive receipts))).yielded = u.yielded ++ receipts ∧
      (u.move (.turn (.receive receipts))).events =
        u.events ++ Receipt.events limit receipts := by
  obtain ⟨hlimit, hphase, hending⟩ := h.of_connected hconnection
  have hstep : u.socket.step true (.receive receipts) =
      (u.socket, (Receipt.events limit receipts).map .report) := by
    simp [step, hending, hphase, hlimit, reportAll]
  constructor
  · simp [InUse.move, hphase, SocketTurn.receipts]
  · rw [InUse.events, InUse.move, hstep, List.filterMap_append, filterMap_event?_report]
    rfl

namespace InUse

/-- What is true of the reports of a session in use whose batches have at most so many datagrams. -/
structure Reported (limit : Nat) (u : InUse κ) : Prop where
  /-- The batches hold the datagrams that the socket yielded, in order. -/
  delivered : deliveredBy u.events = u.yielded.filterMap Receipt.datagram?
  /-- No batch is empty, and none is too long. -/
  bounded : ∀ batch ∈ u.events.filterMap Event.datagrams?, batch ≠ [] ∧ batch.length ≤ limit
  /-- Each failure to receive is reported once, in order, and nothing else is reported as one. -/
  failures : u.events.filterMap Event.readError? =
    (u.yielded.filterMap Receipt.failure?).map Failure.message
  /-- What came in before a failure is delivered in front of the report of it, or by the batch right
  behind it, and what comes in later is delivered behind that. -/
  around : ∀ before cause after, u.yielded = before ++ .failure cause :: after →
    ∃ front batch back, batch.length ≤ 1 ∧
      u.events = front ++ Receipt.report cause :: (batch ++ back) ∧
      deliveredBy (front ++ batch) = before.filterMap Receipt.datagram? ∧
      deliveredBy back = after.filterMap Receipt.datagram?
  /-- As long as getting a socket has not ended, a session that is told to begin and is granted one
  has it, and delivers what it reads. -/
  begins : u.connection = none → u.granted.connection = some (.ok ()) ∧
    ∀ receipts, (u.granted.move (.turn (.receive receipts))).yielded = receipts ∧
      deliveredBy (u.granted.move (.turn (.receive receipts))).events =
        receipts.filterMap Receipt.datagram?
  /-- A session that got a socket has it at every later moment. -/
  stays : u.connection = some (.ok ()) → ∀ moves, (u.run moves).connection = some (.ok ())
  /-- While it has one it goes on to read: in one buffer, whatever is left in it, it takes up one
  after the other what the socket yields. -/
  goes_on : u.connection = some (.ok ()) → ∀ (buffer : List UInt8) (receipts : List Receipt),
    (∀ packet, .datagram packet ∈ receipts → packet.length ≤ buffer.length) →
    (u.move (.turn (.receive receipts))).yielded = u.yielded ++ receipts ∧
      (u.move (.turn (.receive receipts))).events =
        u.events ++ ReadLoop.run limit ⟨buffer, []⟩ receipts

/-- A session reports all that its socket yields, however it is used. -/
theorem reported_run (limit : Nat) (moves : List (Move κ)) :
    ((start limit).run moves).Reported (max limit 1) := by
  have hlimit : 0 < max limit 1 := Nat.lt_of_lt_of_le Nat.zero_lt_one (Nat.le_max_right ..)
  have h := (stage_start (κ := κ) limit).run moves
  generalize (start limit).run moves = u at h
  obtain ⟨reads, hevents, hreads⟩ := h.exists_reports hlimit
  have hnews := u.socket.phase.datagrams?_news
  exact {
    delivered := by
      rw [hevents, deliveredBy_append, deliveredBy, hnews]
      exact hreads.delivered
    bounded := fun batch hbatch => by
      rw [hevents, List.filterMap_append, hnews] at hbatch
      exact hreads.bounded hbatch
    failures := by
      rw [hevents, List.filterMap_append, Phase.readError?_news]
      exact hreads.failures
    around := fun before cause after hyielded => by
      obtain ⟨front, batch, back, hlength, rfl, hbefore, hafter⟩ := hreads.around_failure hyielded
      refine ⟨u.socket.phase.news ++ front, batch, back, hlength, ?_, ?_, hafter.delivered⟩
      · rw [hevents, List.append_assoc]
      · rw [List.append_assoc, deliveredBy_append, deliveredBy, hnews]
        exact hbefore.delivered
    begins := fun hconnection => by
      obtain ⟨hgot, hnothing, hquiet⟩ := h.of_granted hconnection
      refine ⟨hgot, fun receipts => ?_⟩
      have hgranted : Stage (max limit 1) u.granted := h.run _
      obtain ⟨hyielded, hreported⟩ := hgranted.read hgot receipts
      rw [hyielded, hreported, hnothing, hquiet, deliveredBy_append, deliveredBy,
        Phase.datagrams?_news]
      exact ⟨rfl, (Receipt.reports_events hlimit receipts).delivered⟩
    stays := fun hconnection moves => h.connection_run hconnection moves
    goes_on := fun hconnection buffer receipts hfits => by
      rw [ReadLoop.run_eq_events hlimit hfits]
      exact h.read hconnection receipts }

end InUse

end Socket

end PacketTunnel.Session
