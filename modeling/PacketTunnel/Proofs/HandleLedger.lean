import PacketTunnel.Proofs.SessionNumbers

/-!
# What becomes of handles

Every handle that is set up in a run is kept account of. It is the current handle of a session; or
it was cancelled, once, when another took its place or every session was cancelled; or its session
was forgotten because this handle reported that it was cancelled, and then it is not cancelled
again. The ledger behind this: a call neither loses a handle nor counts one twice.
-/

namespace PacketTunnel.Session

variable {κ : Type}

namespace Worked

variable {w : Worked κ} {x : Handle} {g : Nat}

/-- A handle announces a better path, and another takes its place. -/
def Replaces (w : Worked κ) (x : Handle) : Prop :=
  w.call = .notify (x.reports .betterPath) ∧ x ∈ w.before.handles ∧
    ∃ y ∈ w.after.handles, y.session = x.session ∧ y.endpoint = x.endpoint ∧
      y.generation ≠ x.generation

/-- A handle reports that it was cancelled, and its session is forgotten. -/
def Loses (w : Worked κ) (x : Handle) : Prop :=
  w.call = .notify (x.reports (.state .cancelled)) ∧ x ∈ w.before.handles ∧
    x.session ∉ w.after.ids

/-- Every session is cancelled, and among them that of a handle. -/
def Clears (w : Worked κ) (x : Handle) : Prop :=
  w.call = .cancelAll ∧ x ∈ w.before.handles ∧ w.after.handles = []

/-- A handle is current no more. -/
def Ends (w : Worked κ) (x : Handle) : Prop := w.Replaces x ∨ w.Loses x ∨ w.Clears x

section

variable [DecidableEq κ]

instance : Decidable (w.Replaces x) := inferInstanceAs (Decidable (_ ∧ _ ∧ ∃ y ∈ _, _))

instance : Decidable (w.Loses x) := inferInstanceAs (Decidable (_ ∧ _ ∧ _))

instance : Decidable (w.Clears x) := inferInstanceAs (Decidable (_ ∧ _ ∧ _))

end

/-- The handle that goes with its session, when it reports that it was cancelled. -/
def lost (w : Worked κ) : List Nat :=
  match w.call with
  | .notify n => if n.event = .state .cancelled ∧ w.before.Heeds n then [n.generation] else []
  | .send _ _ _ | .demand _ | .cancelAll => []

end Worked

/-- The handles that went with their sessions in a run. -/
def lostIn (record : List (Worked κ)) : List Nat := record.flatMap (·.lost)

theorem lostIn_snoc (record : List (Worked κ)) (w : Worked κ) :
    lostIn (record ++ [w]) = lostIn record ++ w.lost := by
  simp [lostIn]

theorem Worked.mem_lost {w : Worked κ} {g : Nat} :
    g ∈ w.lost ↔ ∃ e ∈ w.before.entries, e.generation = g ∧
      w.call = .notify (e.handle.reports (.state .cancelled)) := by
  obtain ⟨call, before, after, datagrams, effects⟩ := w
  cases call with
  | send | demand | cancelAll => simp [lost]
  | notify n =>
    obtain ⟨session, generation, event⟩ := n
    simp only [lost, List.mem_ite_nil_right, List.mem_singleton]
    simp only [Table.Heeds, Handle.reports, Entry.handle, Call.notify.injEq,
      Notification.mk.injEq]
    constructor
    · rintro ⟨⟨rfl, e, he, rfl, rfl⟩, rfl⟩
      exact ⟨e, he, rfl, rfl, rfl, rfl⟩
    · rintro ⟨e, he, rfl, rfl, rfl, rfl⟩
      exact ⟨⟨rfl, e, he, rfl, rfl⟩, rfl⟩

/-- Where every session is cancelled, every current handle is. -/
theorem cancelled_cancels {t : Table} {cancels : List (Effect κ)}
    (h : cancels.Perm t.cancelAll.2) : (cancelled cancels).Perm t.generations := by
  refine (h.filterMap Effect.cancelled?).trans (.of_eq ?_)
  simp only [Table.effects_cancelAll, List.filterMap_map, Table.generations]
  exact congrFun List.filterMap_eq_map t.entries

/-- A handle was cancelled if the record says so. -/
theorem mem_cancelled {effects : List (Effect κ)} {g : Nat} :
    g ∈ cancelled effects ↔ .cancel g ∈ effects := by
  rw [cancelled, List.mem_filterMap]
  constructor
  · rintro ⟨effect, hmem, heq⟩
    cases effect <;> simp only [Effect.cancelled?, Option.some.injEq, reduceCtorEq] at heq
    exact heq ▸ hmem
  · exact fun hmem => ⟨_, hmem, rfl⟩

namespace Table

variable {t : Table} {x y : Handle}

theorem generation_mem (hx : x ∈ t.handles) : x.generation ∈ t.generations :=
  t.generations_eq ▸ List.mem_map_of_mem hx

theorem Indexed.handle_eq (h : t.Indexed) (hx : x ∈ t.handles) (hy : y ∈ t.handles)
    (heq : x.generation = y.generation) : x = y :=
  List.inj_on_of_nodup_map (t.generations_eq ▸ h.generations) hx hy heq

theorem Indexed.handle_eq_of_session (h : t.Indexed) (hx : x ∈ t.handles) (hy : y ∈ t.handles)
    (heq : x.session = y.session) : x = y := by
  obtain ⟨e, he, rfl⟩ := List.mem_map.mp hx
  obtain ⟨f, hf, rfl⟩ := List.mem_map.mp hy
  rw [h.eq_of_id he hf heq]

theorem Indexed.handle_eq_of_endpoint (h : t.Indexed) (hx : x ∈ t.handles) (hy : y ∈ t.handles)
    (heq : x.endpoint = y.endpoint) : x = y := by
  obtain ⟨e, he, rfl⟩ := List.mem_map.mp hx
  obtain ⟨f, hf, rfl⟩ := List.mem_map.mp hy
  rw [h.eq_of_endpoint he hf heq]

theorem not_mem_ids_remove (t : Table) (e : Entry) : e.id ∉ (t.remove e).ids := by
  simp [ids, remove]

theorem session_mem (hx : x ∈ t.handles) : x.session ∈ t.ids := by
  obtain ⟨e, he, rfl⟩ := List.mem_map.mp hx
  exact List.mem_map_of_mem he

theorem Indexed.handle_lt (h : t.Indexed) (hx : x ∈ t.handles) :
    x.generation < t.nextGeneration := by
  obtain ⟨e, he, rfl⟩ := List.mem_map.mp hx
  exact h.generations_lt e he

end Table

/-- A session that moves to a better path has another handle. -/
theorem replaces_migrate {t : Table} (h : t.Indexed) {e : Entry} (he : e ∈ t.entries)
    {datagrams : Option (List Packet)} {effects : List (Effect κ)} :
    Worked.Replaces ⟨.notify (e.handle.reports .betterPath), t, (t.migrate (κ := κ) e).1, datagrams,
      effects⟩ e.handle := by
  obtain ⟨l, r, -, hafter⟩ := h.handles_migrate (κ := κ) he
  refine ⟨rfl, List.mem_map_of_mem he, ⟨e.id, t.nextGeneration, e.endpoint⟩, ?_, rfl, rfl, ?_⟩
  · simp [hafter]
  · exact (Nat.ne_of_lt (h.generations_lt e he)).symm

/-- What a call does to current handles: some in a row end, which it cancels or which go with their
sessions, and those that it sets up stand in their place. -/
structure Worked.Turnover (w : Worked κ) (l gone r : List Handle) : Prop where
  /-- The current handles before the call. -/
  before : w.before.handles = l ++ gone ++ r
  /-- The current handles after the call. -/
  after : w.after.handles = l ++ made w.effects ++ r
  /-- The handles in between are current no more. -/
  ends : ∀ x ∈ gone, w.Ends x
  /-- They are those that are cancelled or go with their sessions. -/
  balance : (cancelled w.effects ++ w.lost).Perm (gone.map (·.generation))

/-- A call may leave current handles as they are. -/
theorem Worked.Turnover.of_same {w : Worked κ} (hsame : w.after.handles = w.before.handles)
    (hmade : made w.effects = []) (hcancelled : cancelled w.effects = []) (hlost : w.lost = []) :
    w.Turnover w.before.handles [] [] := by
  refine ⟨by simp, by simp [hsame, hmade], by simp, ?_⟩
  rw [hcancelled, hlost]
  exact .refl _

namespace Worked.Move

variable {w : Worked κ} {x : Handle} {g : Nat}

/-- Every call does this to current handles, and nothing else. -/
theorem turnover (h : w.Move) (hindexed : w.before.Indexed) : ∃ l gone r, w.Turnover l gone r := by
  cases h with
  | reused | demanded => exact ⟨_, _, _, .of_same rfl rfl rfl rfl⟩
  | @ignored t n hstale => exact ⟨_, _, _, .of_same rfl rfl rfl (if_neg fun h => hstale h.2)⟩
  | @heard t e he event hkeeps change hchange =>
    refine ⟨_, _, _, .of_same (t.handles_update _ hchange) rfl rfl (if_neg fun h => ?_)⟩
    obtain rfl : event = .state .cancelled := h.1
    exact hkeeps
  | @opened t endpoint hnew =>
    refine ⟨t.handles, [], [], by simp, ?_, by simp, .refl _⟩
    rw [List.append_nil]
    exact t.handles_create (κ := κ) endpoint
  | @migrated t e he =>
    obtain ⟨l, r, hbefore, hafter⟩ := hindexed.handles_migrate (κ := κ) he
    refine ⟨l, [e.handle], r, by simp [hbefore], ?_, fun x hx => ?_, .refl _⟩
    · rw [List.append_assoc]
      exact hafter
    · rw [List.mem_singleton.mp hx]
      exact .inl (replaces_migrate hindexed he)
  | @lost t e he =>
    obtain ⟨l, r, hbefore, hafter⟩ := hindexed.handles_remove he
    have hlost : Worked.lost (κ := κ) ⟨.notify (e.handle.reports (.state .cancelled)), t,
        t.remove e, none, []⟩ = [e.generation] := if_pos ⟨rfl, e, he, rfl, rfl⟩
    refine ⟨l, [e.handle], r, by simp [hbefore], ?_, fun x hx => ?_, .of_eq hlost⟩
    · rw [List.append_assoc]
      exact hafter
    · rw [List.mem_singleton.mp hx]
      exact .inr (.inl ⟨rfl, List.mem_map_of_mem he, t.not_mem_ids_remove e⟩)
  | @cleared t cancels horder =>
    have hnone := t.handles_cancelAll (κ := κ)
    refine ⟨[], t.handles, [], by simp, ?_, fun x hx => .inr (.inr ⟨rfl, hx, hnone⟩), ?_⟩
    · rw [(made_cancels horder).1]
      exact hnone
    · rw [← Table.generations_eq]
      exact (List.append_nil _).symm ▸ cancelled_cancels horder

/-- A handle that is current after a call was so before, or the call set it up. -/
theorem of_handle (h : w.Move) (hindexed : w.before.Indexed) (hx : x ∈ w.after.handles) :
    x ∈ w.before.handles ∨ x ∈ made w.effects := by
  obtain ⟨l, gone, r, hbefore, hafter, -, -⟩ := h.turnover hindexed
  simp only [hafter, List.mem_append] at hx
  simp only [hbefore, List.mem_append]
  tauto

/-- A handle that a call sets up is current afterwards. -/
theorem made_subset (h : w.Move) (hindexed : w.before.Indexed) :
    made w.effects ⊆ w.after.handles := by
  obtain ⟨l, gone, r, -, hafter, -, -⟩ := h.turnover hindexed
  rw [hafter]
  exact fun x hx => List.mem_append_left _ (List.mem_append_right _ hx)

/-- Just the handles that end with a call are not current afterwards. -/
theorem ends_iff (h : w.Move) (hindexed : w.before.Indexed) (hx : x ∈ w.before.handles) :
    w.Ends x ↔ x ∉ w.after.handles := by
  constructor
  · rintro (⟨-, -, y, hy, hsession, -, hgeneration⟩ | ⟨-, -, hid⟩ | ⟨-, -, hnone⟩) hafter
    · exact hgeneration (congrArg _ ((h.indexed hindexed).handle_eq_of_session hy hafter hsession))
    · exact hid (Table.session_mem hafter)
    · simp [hnone] at hafter
  · intro hgone
    obtain ⟨l, gone, r, hbefore, hafter, hends, -⟩ := h.turnover hindexed
    simp only [hafter, List.mem_append, not_or] at hgone
    simp only [hbefore, List.mem_append, hgone.1.1, hgone.2, false_or, or_false] at hx
    exact hends x hx

/-- Handles that are current before a call, and those that it sets up, are current afterwards, or it
cancels them, or they go with their sessions; and each is counted once. -/
theorem perm_generations (h : w.Move) (hindexed : w.before.Indexed) :
    (w.before.generations ++ issued w.effects).Perm
      (w.after.generations ++ (cancelled w.effects ++ w.lost)) := by
  obtain ⟨l, gone, r, hbefore, hafter, -, hbalance⟩ := h.turnover hindexed
  rw [Table.generations_eq, Table.generations_eq, hbefore, hafter, issued]
  rw [List.perm_iff_count] at hbalance ⊢
  intro g
  have hcount := hbalance g
  simp only [List.map_append, List.count_append] at hcount ⊢
  omega

/-- A handle is cancelled when another takes its place or every session is cancelled. -/
theorem of_cancelled (h : w.Move) (hindexed : w.before.Indexed) (hg : g ∈ cancelled w.effects) :
    ∃ x ∈ w.before.handles, x.generation = g ∧ (w.Replaces x ∨ w.Clears x) := by
  rw [mem_cancelled] at hg
  cases h with
  | reused | opened | ignored | heard | lost | demanded => simp at hg
  | @migrated t e he =>
    obtain rfl : g = e.generation := by simpa using hg
    exact ⟨e.handle, List.mem_map_of_mem he, rfl, .inl (replaces_migrate hindexed he)⟩
  | @cleared t cancels horder =>
    obtain ⟨e, he, heq⟩ := mem_cancelAll (horder.subset hg)
    obtain rfl : g = e.generation := Effect.cancel.inj heq
    exact ⟨e.handle, List.mem_map_of_mem he, rfl,
      .inr ⟨rfl, List.mem_map_of_mem he, t.handles_cancelAll⟩⟩

end Worked.Move

/-- A handle goes with its session when it reports that it was cancelled. -/
theorem Worked.Sound.of_lost {w : Worked κ} (h : w.Sound) (hindexed : w.before.Indexed) {g : Nat}
    (hg : g ∈ w.lost) : ∃ x ∈ w.before.handles, x.generation = g ∧ w.Loses x := by
  obtain ⟨e, he, rfl, hcall⟩ := mem_lost.mp hg
  have hafter : w.after = w.before.remove e := (h.of_report hindexed he hcall).1
  have hhandle : e.handle ∈ w.before.handles := List.mem_map_of_mem he
  exact ⟨e.handle, hhandle, rfl, hcall, hhandle, hafter ▸ w.before.not_mem_ids_remove e⟩

/-- Where no session is live, to cancel every session is to do nothing. -/
theorem Worked.Sound.of_cancelNone {w : Worked κ} (h : w.Sound) (hcall : w.call = .cancelAll)
    (hnone : w.before.entries = []) :
    w.after = w.before ∧ w.datagrams = none ∧ w.effects = [] := by
  cases h with
  | send | notify | demand => cases hcall
  | cancelNone => exact ⟨rfl, rfl, rfl⟩
  | cancelAll t hsome => exact absurd hnone hsome

namespace History

variable {record : List (Worked κ)} {w : Worked κ} {t : Table} {x y : Handle}

/-- No generation is issued twice. -/
theorem nodup_issued (h : History record t) : (issued (effectsOf record)).Nodup :=
  h.numbered.issued ▸ List.nodup_range'

/-- What was issued in a run is current, or was cancelled, or went with its session; and each is
counted once. -/
theorem perm_issued (h : History record t) : (issued (effectsOf record)).Perm
    (t.generations ++ (cancelled (effectsOf record) ++ lostIn record)) := by
  induction h with
  | nil => exact .refl _
  | @snoc record w h hsound ih =>
    have hstep := (hsound.move h.indexed).perm_generations h.indexed
    rw [List.perm_iff_count] at ih hstep ⊢
    intro g
    have hbefore := ih g
    have hcall := hstep g
    simp only [effectsOf_snoc, issued_append, cancelled_append, lostIn_snoc,
      List.count_append] at hbefore hcall ⊢
    omega

/-- Every current handle was set up in the run. -/
theorem handles_subset (h : History record t) : t.handles ⊆ made (effectsOf record) := by
  induction h with
  | nil => exact List.nil_subset _
  | @snoc record w h hsound ih =>
    rw [effectsOf_snoc, made_append]
    intro x hx
    rcases (hsound.move h.indexed).of_handle h.indexed hx with hbefore | hmade
    · exact List.mem_append_left _ (ih hbefore)
    · exact List.mem_append_right _ hmade

/-- So was every handle that was current at some time. -/
theorem made_of_mem (h : History record t) (hw : w ∈ record) (hx : x ∈ w.before.handles) :
    x ∈ made (effectsOf record) := by
  obtain ⟨before, after, rfl⟩ := List.append_of_mem hw
  rw [effectsOf, List.flatMap_append, made_append]
  exact List.mem_append_left _ (h.at_call.1.handles_subset hx)

/-- Handles of a run are told apart by their generations. -/
theorem handle_eq (h : History record t) (hx : x ∈ made (effectsOf record))
    (hy : y ∈ made (effectsOf record)) (heq : x.generation = y.generation) : x = y :=
  List.inj_on_of_nodup_map h.nodup_issued hx hy heq

end History

/-- What may have become of a handle. -/
inductive Fate where
  /-- It is the current handle of a session. -/
  | current
  /-- It was cancelled. -/
  | cancelled
  /-- It went with its session. -/
  | lost
  deriving DecidableEq, Repr

/-- What has become of a handle after a run. -/
def Fate.Holds (record : List (Worked κ)) (t : Table) (x : Handle) : Fate → Prop
  | .current => x ∈ t.handles ∧ t.generations.count x.generation = 1 ∧
    (Session.cancelled (effectsOf record)).count x.generation = 0
  | .cancelled => t.generations.count x.generation = 0 ∧
    (Session.cancelled (effectsOf record)).count x.generation = 1 ∧
    ∃ w ∈ record, .cancel x.generation ∈ w.effects ∧ (w.Replaces x ∨ w.Clears x)
  | .lost => t.generations.count x.generation = 0 ∧
    (Session.cancelled (effectsOf record)).count x.generation = 0 ∧ ∃ w ∈ record, w.Loses x

instance [DecidableEq κ] (record : List (Worked κ)) (t : Table) (x : Handle) :
    (fate : Fate) → Decidable (fate.Holds record t x)
  | .current => inferInstanceAs (Decidable (_ ∧ _ ∧ _))
  | .cancelled => inferInstanceAs (Decidable (_ ∧ _ ∧ ∃ w ∈ record, _))
  | .lost => inferInstanceAs (Decidable (_ ∧ _ ∧ ∃ w ∈ record, _))

/-- The accounts of a run. -/
structure HandleAccounts (record : List (Worked κ)) (t : Table) : Prop where
  /-- Handles have generations of their own. -/
  apart : (issued (effectsOf record)).Nodup
  /-- Every handle that was set up is current, or was cancelled, or went with its session, and just
  one of these. -/
  fate : ∀ x ∈ made (effectsOf record), ∃! fate : Fate, fate.Holds record t x
  /-- To cancel every session is to cancel each current handle, once, and to be left without any. -/
  cleared : ∀ w ∈ record, w.call = .cancelAll →
    (∀ x ∈ w.before.handles, (cancelled w.effects).count x.generation = 1) ∧
    w.after.entries = [] ∧ w.after.byEndpoint = []
  /-- To do so again is to do nothing. -/
  again : ∀ w ∈ record, w.call = .cancelAll → ∀ v : Worked κ, v.Sound → v.before = w.after →
    v.call = .cancelAll → v.after = v.before ∧ v.datagrams = none ∧ v.effects = []

/-- A fate leaves no room for another. -/
theorem Fate.Holds.unique {record : List (Worked κ)} {t : Table} {x : Handle} {a b : Fate}
    (ha : a.Holds record t x) (hb : b.Holds record t x) : a = b := by
  cases a <;> cases b <;> simp only [Holds] at ha hb <;> first | rfl | omega

/-- Every handle of a run has a fate. -/
theorem History.exists_fate {record : List (Worked κ)} {t : Table} (h : History record t)
    {x : Handle} (hx : x ∈ made (effectsOf record)) : ∃ fate : Fate, fate.Holds record t x := by
  have honce : (issued (effectsOf record)).count x.generation = 1 :=
    List.count_eq_one_of_mem h.nodup_issued (List.mem_map_of_mem hx)
  have hcount := h.perm_issued.count_eq x.generation
  rw [honce, List.count_append, List.count_append] at hcount
  by_cases hcurrent : x.generation ∈ t.generations
  · have hpos := List.count_pos_iff.mpr hcurrent
    rw [t.generations_eq] at hcurrent
    obtain ⟨y, hy, heq⟩ := List.mem_map.mp hcurrent
    obtain rfl := h.handle_eq (h.handles_subset hy) hx heq
    exact ⟨.current, hy, by omega, by omega⟩
  have hgone := List.count_eq_zero_of_not_mem hcurrent
  by_cases hcancelled : x.generation ∈ cancelled (effectsOf record)
  · have hpos := List.count_pos_iff.mpr hcancelled
    obtain ⟨w, hw, hcancel⟩ := List.mem_flatMap.mp (mem_cancelled.mp hcancelled)
    obtain ⟨hmove, hindexed⟩ := h.of_mem hw
    obtain ⟨y, hy, heq, hcause⟩ := hmove.of_cancelled hindexed (mem_cancelled.mpr hcancel)
    obtain rfl := h.handle_eq (h.made_of_mem hw hy) hx heq
    exact ⟨.cancelled, hgone, by omega, w, hw, hcancel, hcause⟩
  · have hnever := List.count_eq_zero_of_not_mem hcancelled
    have hlost : x.generation ∈ lostIn record := List.count_pos_iff.mp (by omega)
    obtain ⟨w, hw, hmem⟩ := List.mem_flatMap.mp hlost
    obtain ⟨before, after, rfl⟩ := List.append_of_mem hw
    obtain ⟨y, hy, heq, hcause⟩ := h.at_call.2.1.of_lost h.at_call.1.indexed hmem
    obtain rfl := h.handle_eq (h.made_of_mem hw hy) hx heq
    exact ⟨.lost, hgone, hnever, w, hw, hcause⟩

/-- Every handle that is current when every session is cancelled is cancelled, and none is left. -/
theorem History.of_cancelAll {record : List (Worked κ)} {t : Table} (h : History record t)
    {w : Worked κ} (hw : w ∈ record) (hcall : w.call = .cancelAll) :
    (∀ x ∈ w.before.handles, (cancelled w.effects).count x.generation = 1) ∧
      w.after.entries = [] ∧ w.after.byEndpoint = [] := by
  obtain ⟨hmove, hindexed⟩ := h.of_mem hw
  cases hmove with
  | reused | opened | ignored | heard | migrated | lost | demanded => cases hcall
  | @cleared t cancels horder =>
    have hleft : (t.cancelAll (κ := κ)).1 = { t with entries := [], byEndpoint := [] } :=
      congrArg Prod.fst hindexed.cancelAll_eq
    refine ⟨fun x hx => ?_, t.entries_cancelAll, congrArg Table.byEndpoint hleft⟩
    rw [(cancelled_cancels horder).count_eq]
    exact List.count_eq_one_of_mem hindexed.generations (Table.generation_mem hx)

/-- Every run leads to accounts that balance. -/
theorem handleAccounts_run {record : List (Worked κ)} {t : Table} (h : History record t) :
    HandleAccounts record t := by
  refine ⟨h.nodup_issued, fun x hx => ?_, fun w hw => h.of_cancelAll hw, ?_⟩
  · obtain ⟨fate, hfate⟩ := h.exists_fate hx
    exact ⟨fate, hfate, fun other hother => hother.unique hfate⟩
  · intro w hw hcall v hsound hbefore hagain
    exact hsound.of_cancelNone hagain (hbefore ▸ (h.of_cancelAll hw hcall).2.1)

/-- Three handles were cancelled, one went with its session, and one is current. -/
theorem handleAccounts_course :
    cancelled (effectsOf (Table.empty.run course).1) = [1, 3, 4] ∧
    Fate.lost.Holds (Table.empty.run course).1 (Table.empty.run course).2 ⟨2, 2, far⟩ ∧
    Fate.current.Holds (Table.empty.run course).1 (Table.empty.run course).2 ⟨4, 5, near⟩ ∧
    HandleAccounts (Table.empty.run course).1 (Table.empty.run course).2 :=
  ⟨by decide, by decide, by decide, handleAccounts_run (history_run course)⟩

end PacketTunnel.Session
