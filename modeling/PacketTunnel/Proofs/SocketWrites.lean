import PacketTunnel.Proofs.SocketReads

/-!
# What becomes of writes to sessions over sockets

Writes are served in the order in which they were asked for, whenever that was. Each of them has one
outcome, and its completion hears of it: what became of its own datagram, or why there is no socket.
The session itself is reported as being prepared and then once as usable or not.
-/

namespace PacketTunnel.Session

variable {κ : Type}

/-- Whether an event is about the session itself and not about what it read. -/
def Event.isNews : Event → Bool
  | .datagrams _ | .readError _ => false
  | .state _ | .betterPath | .viable _ => true

theorem Phase.filter_isNews_news (phase : Phase) : phase.news.filter Event.isNews = phase.news := by
  cases phase <;> rfl

/-- Nothing that is read is news of the session. -/
theorem Receipt.Reports.filter_isNews {limit : Nat} {receipts : List Receipt} {events : List Event}
    (h : Reports limit receipts events) : events.filter Event.isNews = [] := by
  induction h with
  | nil => rfl
  | nothing _ ih | failure _ _ ih | batch _ _ _ ih | broken _ _ _ _ ih => exact ih

namespace Socket

/-- What is done beside reporting. -/
theorem filterMap_report {α : Type} {f : SocketEffect κ → Option α}
    (hreport : ∀ event, f (.report event) = none) (events : List Event) :
    (events.map SocketEffect.report).filterMap f = [] := by
  rw [List.filterMap_map]
  exact List.filterMap_eq_nil_iff.mpr fun event _ => hreport event

/-- A view of what a session does with its socket shows the writes that it serves, if it shows
nothing of reports. -/
theorem Deed.filterMap_effects {α : Type} {f : SocketEffect κ → Option α} {g : Served κ → α}
    (hreport : ∀ event, f (.report event) = none)
    (hserved : ∀ write limit, (effects limit (.served write)).filterMap f = [g write])
    (limit : Nat) (deeds : List (Deed κ)) :
    (deeds.flatMap (effects limit)).filterMap f = (servedIn deeds).map g := by
  induction deeds with
  | nil => rfl
  | cons deed deeds ih =>
    rw [List.flatMap_cons, List.filterMap_append, ih]
    cases deed with
    | served write =>
      rw [hserved]
      rfl
    | read receipts =>
      rw [effects, filterMap_report hreport]
      rfl

theorem Deed.sent_effects (limit : Nat) (deeds : List (Deed κ)) :
    (deeds.flatMap (effects limit)).filterMap SocketEffect.sent? =
      (servedIn deeds).map Served.datagram :=
  filterMap_effects (fun _ => rfl) (fun _ _ => rfl) limit deeds

theorem Deed.completed_effects (limit : Nat) (deeds : List (Deed κ)) :
    (deeds.flatMap (effects limit)).filterMap SocketEffect.completed? =
      (servedIn deeds).map Served.answer :=
  filterMap_effects (fun _ => rfl) (fun _ _ => rfl) limit deeds

/-- Call by call, a completion hears what became of the datagram of its own call. -/
theorem Served.answers_eq (served : List (Served κ)) (waiting : List (Packet × κ)) :
    List.zipWith (fun call given => (call.2, given.2.mapError .refused))
      (served.map Served.call ++ waiting) (served.map Served.given) =
        served.map Served.answer := by
  induction served with
  | nil => exact List.zipWith_nil_right
  | cons write served ih => exact congrArg (write.answer :: ·) ih

/-- What the completion of a call hears if there is no socket. -/
def refusal (cause : Failure) (call : Packet × κ) : κ × Except WriteFailure Unit :=
  (call.2, .error (.unavailable cause.restated))

namespace Stage

variable {limit : Nat} {u : InUse κ}

/-- The news of the session are those of its phase. -/
theorem news_eq (h : Stage limit u) (hlimit : 0 < limit) :
    u.events.filter Event.isNews = u.socket.phase.news := by
  obtain ⟨reads, hevents, hreads⟩ := h.exists_reports hlimit
  rw [hevents, List.filter_append, Phase.filter_isNews_news, hreads.filter_isNews, List.append_nil]

/-- While getting a socket has not ended, writes are only put in line. -/
theorem of_none (h : Stage limit u) (hconnection : u.connection = none) :
    (u.socket.phase = .fresh ∨ u.socket.phase = .connecting) ∧ u.completions = [] := by
  cases h with
  | fresh => exact ⟨.inl rfl, rfl⟩
  | connecting => exact ⟨.inr rfl, rfl⟩
  | failed | connected => cases hconnection

/-- A session with a socket has served the first writes. -/
theorem exists_served (h : Stage limit u) (hconnection : u.connection = some (.ok ())) :
    ∃ served : List (Served κ), u.calls = served.map Served.call ++ u.socket.waiting ∧
      u.given = served.map Served.given ∧ u.completions = served.map Served.answer := by
  cases h with
  | fresh | connecting | failed => cases hconnection
  | connected deeds waiting =>
    refine ⟨servedIn deeds, rfl, rfl, ?_⟩
    rw [InUse.completions, List.filterMap_append, filterMap_report fun _ => rfl,
      Deed.completed_effects, List.nil_append]

/-- A session without one has failed the first writes. -/
theorem exists_failed (h : Stage limit u) {cause : Failure}
    (hconnection : u.connection = some (.error cause)) :
    u.socket.phase = .failed cause ∧ u.given = [] ∧ ∃ failed : List (Packet × κ),
      u.calls = failed ++ u.socket.waiting ∧
      u.completions = failed.map (refusal cause) := by
  cases h with
  | fresh | connecting | connected => cases hconnection
  | failed cause failed waiting =>
    obtain rfl := Except.error.inj (Option.some.inj hconnection)
    refine ⟨rfl, rfl, failed, rfl, ?_⟩
    rw [InUse.completions, List.filterMap_append, filterMap_report fun _ => rfl, List.nil_append,
      List.filterMap_map, ← List.filterMap_eq_map]
    rfl

/-- What the socket was given is what came out of the session, and follows its calls. -/
theorem sent_eq (h : Stage limit u) :
    u.effects.filterMap SocketEffect.sent? = u.given.map Prod.fst ∧
      u.given.map Prod.fst <+: u.calls.map Prod.fst := by
  cases h with
  | fresh | connecting => exact ⟨rfl, List.nil_prefix⟩
  | failed cause failed waiting =>
    refine ⟨?_, List.nil_prefix⟩
    rw [List.filterMap_append, filterMap_report fun _ => rfl, List.nil_append, List.filterMap_map]
    exact List.filterMap_eq_nil_iff.mpr fun _ _ => rfl
  | connected deeds waiting =>
    rw [List.filterMap_append, filterMap_report fun _ => rfl, List.nil_append,
      Deed.sent_effects, List.map_append, List.map_map, List.map_map]
    exact ⟨rfl, List.prefix_append ..⟩

/-- Nothing comes out of the session before it is ready. -/
theorem ready_mem (h : Stage limit u) {front back : List (SocketEffect κ)} {datagram : Packet}
    (heffects : u.effects = front ++ .send datagram :: back) : .report (.state .ready) ∈ front := by
  have hsent : datagram ∈ u.given.map Prod.fst := by
    rw [← h.sent_eq.1, heffects]
    exact List.mem_filterMap.mpr ⟨_, List.mem_append_right _ List.mem_cons_self, rfl⟩
  cases h with
  | fresh | connecting | failed => cases hsent
  | connected deeds waiting =>
    match front, heffects with
    | [], heffects => cases (List.cons.inj heffects).1
    | [_], heffects => cases (List.cons.inj (List.cons.inj heffects).2).1
    | _ :: ready :: _, heffects =>
      rw [← (List.cons.inj (List.cons.inj heffects).2).1]
      exact List.mem_cons_of_mem _ List.mem_cons_self

/-- Each call has had its completion called, or is in line. -/
theorem calls_eq (h : Stage limit u) : u.calls.map Prod.snd =
    u.completions.map Prod.fst ++ u.socket.waiting.map Prod.snd := by
  cases hconnection : u.connection with
  | none =>
    rw [(h.of_none hconnection).2]
    cases h with
    | fresh | connecting => rfl
    | failed | connected => cases hconnection
  | some result =>
    cases result with
    | ok _ =>
      obtain ⟨served, hcalls, -, hcompletions⟩ := h.exists_served hconnection
      rw [hcalls, hcompletions, List.map_append, List.map_map, List.map_map]
      rfl
    | error cause =>
      obtain ⟨-, -, failed, hcalls, hcompletions⟩ := h.exists_failed hconnection
      rw [hcalls, hcompletions, List.map_append, List.map_map]
      rfl

/-- Where getting a socket has ended, a turn for a write serves the first one in line. -/
theorem waiting_serve (h : Stage limit u) {result : Except Failure Unit}
    (hconnection : u.connection = some result) (sent : Except Failure Unit) :
    (u.move (.turn (.serve sent))).socket.waiting = u.socket.waiting.tail := by
  cases h with
  | fresh | connecting => cases hconnection
  | failed cause failed waiting => cases waiting <;> rfl
  | connected deeds waiting => cases waiting <;> rfl

/-- So one more of the calls has its completion called, if there is one left. -/
theorem length_completions_serve (h : Stage limit u) {result : Except Failure Unit}
    (hconnection : u.connection = some result) (sent : Except Failure Unit) :
    min u.calls.length (u.completions.length + 1) ≤
      (u.move (.turn (.serve sent))).completions.length := by
  have hbefore := congrArg List.length h.calls_eq
  have hbehind := congrArg List.length (h.move (.turn (.serve sent))).calls_eq
  rw [h.waiting_serve hconnection] at hbehind
  simp only [List.length_append, List.length_map, List.length_tail] at hbefore hbehind
  have hcalls : (u.move (.turn (.serve sent))).calls = u.calls := rfl
  rw [hcalls] at hbehind
  omega

end Stage

/-- Whether a move is a turn of the session for a write. -/
def Move.isServe : Move κ → Bool
  | .turn (.serve _) => true
  | _ => false

/-- So many turns for writes get as many of the calls done, if there are so many. -/
theorem Stage.le_length_completions {limit : Nat} {u : InUse κ} (h : Stage limit u)
    {result : Except Failure Unit} (hconnection : u.connection = some result)
    (moves : List (Move κ)) {count : Nat} (hcount : count ≤ u.calls.length) :
    min count (u.completions.length + moves.countP Move.isServe) ≤
      (u.run moves).completions.length := by
  induction moves generalizing u with
  | nil => exact Nat.min_le_right ..
  | cons m moves ih =>
    have hcalls := (u.prefix_move m).1.length_le
    have hrest := ih (h.move m) (h.connection_move hconnection m) (Nat.le_trans hcount hcalls)
    rw [InUse.run_cons]
    by_cases hm : m.isServe
    · obtain ⟨sent, rfl⟩ : ∃ sent, m = .turn (.serve sent) := by
        match m, hm with
        | .turn (.serve sent), _ => exact ⟨sent, rfl⟩
      have hserved := h.length_completions_serve hconnection sent
      rw [List.countP_cons_of_pos hm]
      omega
    · have hkept := ((u.prefix_move m).2.filterMap SocketEffect.completed?).length_le
      change u.completions.length ≤ (u.move m).completions.length at hkept
      rw [List.countP_cons_of_neg hm]
      omega

/-- Moves with the turns that a session needs from a phase on for some writes: one to begin, one in
which getting a socket ends, and then one for each write. -/
inductive Suffices (count : Nat) : Phase → List (Move κ) → Prop
  | fresh (before : List (Move κ)) {after : List (Move κ)}
      (rest : Suffices count .connecting after) :
      Suffices count .fresh (before ++ .turn .prepare :: after)
  | connecting (before : List (Move κ)) (result : Except Failure Unit) {after : List (Move κ)}
      (serves : count ≤ after.countP Move.isServe) :
      Suffices count .connecting (before ++ .turn (.connect result) :: after)
  | connected {moves : List (Move κ)} (serves : count ≤ moves.countP Move.isServe) :
      Suffices count .connected moves
  | failed (cause : Failure) {moves : List (Move κ)} (serves : count ≤ moves.countP Move.isServe) :
      Suffices count (.failed cause) moves

/-- A session that has done something gets to the end of getting a socket with the turn in which
that ends. -/
theorem Stage.exists_connection {limit : Nat} {u : InUse κ} (h : Stage limit u)
    (hbegun : u.effects ≠ []) (before : List (Move κ)) (result : Except Failure Unit) :
    ∃ result', ((u.run before).move (.turn (.connect result))).connection = some result' := by
  have hstage := h.run before
  have hdone : (u.run before).effects ≠ [] := fun hnil =>
    hbegun (List.prefix_nil.mp (hnil ▸ (u.prefix_run before).2))
  generalize u.run before = v at hstage hdone
  cases hstage with
  | fresh => exact absurd rfl hdone
  | connecting | failed | connected => exact ⟨_, rfl⟩

/-- Calls that are still in line then have their completions called by the turns behind it. -/
theorem Stage.le_of_begun {limit : Nat} {u : InUse κ} (h : Stage limit u) (hbegun : u.effects ≠ [])
    (before : List (Move κ)) (result : Except Failure Unit) {after : List (Move κ)} {count : Nat}
    (hcount : count ≤ u.calls.length)
    (hserves : count ≤ u.completions.length + after.countP Move.isServe) :
    count ≤ (u.run (before ++ .turn (.connect result) :: after)).completions.length := by
  rw [InUse.run_append, InUse.run_cons]
  have hstage := (h.run before).move (.turn (.connect result))
  obtain ⟨result', hconnection⟩ := h.exists_connection hbegun before result
  have hcalls := (u.prefix_run before).1.length_le
  have hcompletions := ((u.prefix_run before).2.trans
    ((u.run before).prefix_move (.turn (.connect result))).2).filterMap SocketEffect.completed?
  have hlength : u.completions.length ≤
      ((u.run before).move (.turn (.connect result))).completions.length := hcompletions.length_le
  have hdone := hstage.le_length_completions hconnection after (Nat.le_trans hcount hcalls)
  omega

/-- A session that was told to begin has done something. -/
theorem Stage.effects_prepare {limit : Nat} {u : InUse κ} (h : Stage limit u) :
    (u.move (.turn .prepare)).effects ≠ [] := by
  cases h with
  | fresh | connecting | failed | connected => exact List.cons_ne_nil _ _

/-- With turns enough for those in line, as many completions are called as there were calls. -/
theorem Stage.calls_le_completions {limit : Nat} {u : InUse κ} (h : Stage limit u)
    {moves : List (Move κ)} (hmoves : Suffices u.socket.waiting.length u.socket.phase moves) :
    u.calls.length ≤ (u.run moves).completions.length := by
  have hcount : u.calls.length = u.completions.length + u.socket.waiting.length := by
    have hlength := congrArg List.length h.calls_eq
    rwa [List.length_append, List.length_map, List.length_map, List.length_map] at hlength
  have hstage := h
  cases h with
  | fresh waiting =>
    cases hmoves with
    | fresh before rest =>
      cases rest with
      | connecting between result serves =>
        have hbegun := (hstage.run before).move (.turn .prepare)
        rw [InUse.run_append, InUse.run_cons]
        exact hbegun.le_of_begun (hstage.run before).effects_prepare between result
          (InUse.prefix_run _ before).1.length_le (Nat.le_add_left_of_le serves)
  | connecting waiting =>
    cases hmoves with
    | connecting before result serves =>
      exact hstage.le_of_begun (List.cons_ne_nil _ _) before result (Nat.le_refl _)
        (Nat.le_add_left_of_le serves)
  | failed cause failed waiting =>
    cases hmoves with
    | failed _ serves =>
      have hdone := hstage.le_length_completions rfl moves (Nat.le_refl _)
      omega
  | connected deeds waiting =>
    cases hmoves with
    | connected serves =>
      have hdone := hstage.le_length_completions rfl moves (Nat.le_refl _)
      omega

/-- Calls that were made at some moment have their completions called if as many were called. -/
theorem Stage.prefix_completions {limit : Nat} {u : InUse κ} (h : Stage limit u)
    {calls : List (Packet × κ)} (hcalls : calls <+: u.calls)
    (hlength : calls.length ≤ u.completions.length) :
    calls.map Prod.snd <+: u.completions.map Prod.fst := by
  refine List.prefix_of_prefix_length_le (hcalls.map Prod.snd) ?_ (by simpa using hlength)
  rw [h.calls_eq]
  exact List.prefix_append ..

/-- With a socket their datagrams were given to it then. -/
theorem Stage.prefix_given {limit : Nat} {u : InUse κ} (h : Stage limit u)
    (hconnection : u.connection = some (.ok ())) {calls : List (Packet × κ)}
    (hcalls : calls <+: u.calls) (hlength : calls.length ≤ u.completions.length) :
    calls.map Prod.fst <+: u.given.map Prod.fst := by
  obtain ⟨served, -, hgiven, hcompletions⟩ := h.exists_served hconnection
  rw [hcompletions, List.length_map] at hlength
  refine List.prefix_of_prefix_length_le (hcalls.map Prod.fst) h.sent_eq.2 ?_
  rw [hgiven, List.length_map, List.length_map, List.length_map]
  exact hlength

namespace InUse

/-- What is true of the writes to a session in use. -/
structure Written (u : InUse κ) : Prop where
  /-- Before getting a socket has ended, the session reports at most that it is being prepared, and
  no completion is called. -/
  preparing : u.connection = none →
    u.events.filter Event.isNews <+: [.state .preparing] ∧ u.completions = []
  /-- With a socket it reports that it is ready and viable, and no other news ever. -/
  ready : u.connection = some (.ok ()) →
    u.events.filter Event.isNews = [.state .preparing, .state .ready, .viable true]
  /-- Without one it reports that it failed and is not viable, and no other news ever. -/
  failed : ∀ cause, u.connection = some (.error cause) →
    u.events.filter Event.isNews = [.state .preparing, .state .failed, .viable false]
  /-- The socket is given the datagrams of the calls, in order, each once and none left out. -/
  sent : u.effects.filterMap SocketEffect.sent? = u.given.map Prod.fst ∧
    u.given.map Prod.fst <+: u.calls.map Prod.fst
  /-- It is given none before the session is ready. -/
  behind : ∀ front datagram back, u.effects = front ++ .send datagram :: back →
    .report (.state .ready) ∈ front
  /-- The completions of the calls are called in order, each once and none left out. -/
  completed : u.completions.map Prod.fst <+: u.calls.map Prod.snd
  /-- With a socket, each hears what became of the datagram of its own call. -/
  heard : u.connection = some (.ok ()) → u.completions =
    List.zipWith (fun call given => (call.2, given.2.mapError .refused)) u.calls u.given
  /-- Without one nothing is sent, and each hears of a failure with the kind and the text of the one
  for which there is no socket. -/
  refused : ∀ cause, u.connection = some (.error cause) →
    u.given = [] ∧ ∀ x ∈ u.completions, ∃ failure, x.2 = .error failure ∧
      failure.kind = cause.kind ∧ failure.message = cause.message
  /-- However getting a socket ends, with turns enough for the calls in line the completions of all
  calls so far are called, and their datagrams given to the socket if there is one. -/
  answered : ∀ moves, Suffices u.socket.waiting.length u.socket.phase moves →
    u.calls.map Prod.snd <+: (u.run moves).completions.map Prod.fst ∧
      ((u.run moves).connection = some (.ok ()) →
        u.calls.map Prod.fst <+: (u.run moves).given.map Prod.fst)

/-- Every write to a session has one outcome, in order, however the session is used. -/
theorem written_run (limit : Nat) (moves : List (Move κ)) :
    ((start limit).run moves).Written := by
  have hlimit : 0 < max limit 1 := Nat.lt_of_lt_of_le Nat.zero_lt_one (Nat.le_max_right ..)
  have h := (stage_start (κ := κ) limit).run moves
  generalize (start limit).run moves = u at h
  have hnews := h.news_eq hlimit
  exact {
    preparing := fun hconnection => by
      obtain ⟨hphase, hcompletions⟩ := h.of_none hconnection
      refine ⟨?_, hcompletions⟩
      rw [hnews]
      rcases hphase with hphase | hphase
      · rw [hphase]
        exact List.nil_prefix
      · rw [hphase]
        exact List.prefix_rfl
    ready := fun hconnection => by rw [hnews, (h.of_connected hconnection).2.1]; rfl
    failed := fun cause hconnection => by rw [hnews, (h.exists_failed hconnection).1]; rfl
    sent := h.sent_eq
    behind := fun _ _ _ => h.ready_mem
    completed := by
      rw [h.calls_eq]
      exact List.prefix_append ..
    heard := fun hconnection => by
      obtain ⟨served, hcalls, hgiven, hcompletions⟩ := h.exists_served hconnection
      rw [hcalls, hgiven, hcompletions, Served.answers_eq]
    refused := fun cause hconnection => by
      obtain ⟨-, hgiven, failed, -, hcompletions⟩ := h.exists_failed hconnection
      refine ⟨hgiven, fun x hx => ?_⟩
      rw [hcompletions] at hx
      obtain ⟨call, -, rfl⟩ := List.mem_map.mp hx
      exact ⟨.unavailable cause.restated, rfl, cause.kind_restated, cause.message_restated⟩
    answered := fun moves hmoves => by
      have hcalls := (u.prefix_run moves).1
      have hlength := h.calls_le_completions hmoves
      exact ⟨(h.run moves).prefix_completions hcalls hlength,
        fun hconnection => (h.run moves).prefix_given hconnection hcalls hlength⟩ }

/-- The first datagram waits for the socket, and the socket does not take it. -/
example : ((start 1).run
    [.write [1] 'a', .turn .prepare, .turn (.serve (.ok ())), .turn (.connect (.ok ())),
      .write [2] 'b', .turn (.serve (.error (.system 90))), .turn (.serve (.ok ()))]).completions
      = [('a', .error (.refused (.system 90))), ('b', .ok ())] := rfl

end InUse

end Socket

end PacketTunnel.Session
