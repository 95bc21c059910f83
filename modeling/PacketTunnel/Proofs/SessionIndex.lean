import Mathlib.Data.List.Nodup
import PacketTunnel.Session.Table

/-!
# Sessions and their index

A session table keeps its sessions in a list, and beside it an index from endpoints to the numbers
of sessions. The index lists just the live sessions, the latest first. From this it follows that
either side can be looked up by the other, and every operation on the table keeps it.
-/

namespace PacketTunnel.Session.Table

open Net

variable {κ : Type} {t : Table} {e : Entry} {endpoint : Endpoint} {id : Nat}

/-- The numbers of the sessions that are live. -/
def ids (t : Table) : List Nat := t.entries.map (·.id)

/-- The endpoints that live sessions serve. -/
def endpoints (t : Table) : List Endpoint := t.entries.map (·.endpoint)

/-- The generations of the current handles. -/
def generations (t : Table) : List Nat := t.entries.map (·.generation)

/-- The two sides of a table are in line. -/
structure Indexed (t : Table) : Prop where
  /-- Sessions stand in the order of their numbers. -/
  ordered : t.ids.Pairwise (· < ·)
  /-- No endpoint has two sessions. -/
  endpoints : t.endpoints.Nodup
  /-- No two sessions have handles of one generation. -/
  generations : t.generations.Nodup
  /-- Numbers of sessions are below the next one. -/
  ids_lt : ∀ e ∈ t.entries, e.id < t.nextId
  /-- Generations are below the next one. -/
  generations_lt : ∀ e ∈ t.entries, e.generation < t.nextGeneration
  /-- The index lists the live sessions, the latest first. -/
  index : t.byEndpoint = (t.entries.map fun e => (e.endpoint, e.id)).reverse

theorem ids_update (t : Table) (id : Nat) {change : Entry → Entry}
    (h : ∀ e, (change e).id = e.id) : (t.update id change).ids = t.ids := by
  rw [ids, update, List.map_map]
  refine List.map_congr_left fun e _ => ?_
  rw [Function.comp_apply]
  split
  · exact h e
  · rfl

/-- A session that is not live has no entry. -/
theorem entry?_eq_none {t : Table} {id : Nat} (h : id ∉ t.ids) : t.entry? id = none := by
  rw [ entry?, List.find?_eq_none]
  intro e he heq
  exact h (of_decide_eq_true heq ▸ List.mem_map_of_mem he)

/-- A change that changes nothing. -/
theorem update_id (t : Table) (id : Nat) : t.update id (fun e => e) = t := by
  simp [update]

/-- Where no session is live there is nothing to cancel, and nothing changes. -/
theorem cancelAll_of_entries_eq_nil (hnone : t.entries = []) :
    t.cancelAll (κ := κ) = (t, []) := by
  rw [cancelAll, hnone, List.isEmpty_nil, if_pos rfl]

theorem cancelAll_of_entries_ne_nil (hsome : t.entries ≠ []) : t.cancelAll (κ := κ) =
    ({ t with entries := [], byEndpoint := [] },
      t.entries.map fun e => .cancel e.generation) := by
  rw [cancelAll, if_neg (List.isEmpty_iff.not.mpr hsome)]

/-- No session is left. -/
@[simp] theorem entries_cancelAll (t : Table) : (t.cancelAll (κ := κ)).1.entries = [] := by
  by_cases hnone : t.entries = []
  · rw [cancelAll_of_entries_eq_nil hnone]
    exact hnone
  · rw [cancelAll_of_entries_ne_nil hnone]

theorem ids_cancelAll (t : Table) : (t.cancelAll (κ := κ)).1.ids = [] := by
  rw [ids, entries_cancelAll, List.map_nil]

/-- Every current handle is cancelled, and nothing else is done. -/
theorem effects_cancelAll (t : Table) :
    (t.cancelAll (κ := κ)).2 = t.entries.map fun e => .cancel e.generation := by
  by_cases hnone : t.entries = []
  · rw [cancelAll_of_entries_eq_nil hnone, hnone, List.map_nil]
  · rw [cancelAll_of_entries_ne_nil hnone]

/-- What is not about sessions that are live stays as it is. -/
theorem frame_cancelAll (t : Table) :
    (t.cancelAll (κ := κ)).1.requiredInterface = t.requiredInterface ∧
      (t.cancelAll (κ := κ)).1.nextId = t.nextId ∧
      (t.cancelAll (κ := κ)).1.nextGeneration = t.nextGeneration := by
  by_cases hnone : t.entries = []
  · rw [cancelAll_of_entries_eq_nil hnone]
    exact ⟨rfl, rfl, rfl⟩
  · rw [cancelAll_of_entries_ne_nil hnone]
    exact ⟨rfl, rfl, rfl⟩

namespace Indexed

theorem empty : Table.empty.Indexed := by
  constructor <;> simp [Table.empty, ids, Table.endpoints, Table.generations]

/-! ## Looking up -/

theorem nodup_ids (h : t.Indexed) : t.ids.Nodup := h.ordered.imp Nat.ne_of_lt

theorem eq_of_id (h : t.Indexed) {a b : Entry} (ha : a ∈ t.entries) (hb : b ∈ t.entries)
    (heq : a.id = b.id) : a = b := List.inj_on_of_nodup_map h.nodup_ids ha hb heq

theorem eq_of_endpoint (h : t.Indexed) {a b : Entry} (ha : a ∈ t.entries) (hb : b ∈ t.entries)
    (heq : a.endpoint = b.endpoint) : a = b := List.inj_on_of_nodup_map h.endpoints ha hb heq

theorem eq_of_generation (h : t.Indexed) {a b : Entry} (ha : a ∈ t.entries) (hb : b ∈ t.entries)
    (heq : a.generation = b.generation) : a = b :=
  List.inj_on_of_nodup_map h.generations ha hb heq

/-- A number leads to the live session that has it. -/
theorem entry?_eq_some (h : t.Indexed) : t.entry? id = some e ↔ e ∈ t.entries ∧ e.id = id := by
  constructor
  · intro hfound
    have hid := List.find?_some hfound
    exact ⟨List.mem_of_find?_eq_some hfound, of_decide_eq_true hid⟩
  · rintro ⟨he, rfl⟩
    rcases hfound : t.entry? e.id with _ | found
    · exact absurd (List.find?_eq_none.mp hfound e he) (by simp)
    · have hid := List.find?_some hfound
      rw [h.eq_of_id (List.mem_of_find?_eq_some hfound) he (of_decide_eq_true hid)]

/-- The index lists the sessions that are live, and nothing else. -/
theorem mem_byEndpoint (h : t.Indexed) :
    (endpoint, id) ∈ t.byEndpoint ↔ ∃ e ∈ t.entries, e.endpoint = endpoint ∧ e.id = id := by
  simp only [h.index, List.mem_reverse, List.mem_map, Prod.mk.injEq]

/-- The index leads from an endpoint to the live session that serves it. -/
theorem sessionFor?_eq_some (h : t.Indexed) : t.sessionFor? endpoint = some id ↔
    ∃ e ∈ t.entries, e.endpoint = endpoint ∧ e.id = id := by
  rw [← h.mem_byEndpoint, sessionFor?, List.lookup_eq_some_iff]
  constructor
  · rintro ⟨before, after, heq, -⟩
    simp [heq]
  · intro hmem
    obtain ⟨before, after, heq⟩ := List.append_of_mem hmem
    refine ⟨before, after, heq, fun p hp => ?_⟩
    have hkeys : (t.byEndpoint.map Prod.fst).Nodup := by
      have hnodup := h.endpoints
      simpa [h.index, Table.endpoints, Function.comp_def] using hnodup
    rw [heq, List.map_append, List.map_cons] at hkeys
    have hapart := (List.nodup_append.mp hkeys).2.2 p.1 (List.mem_map_of_mem hp) endpoint
      List.mem_cons_self
    simpa using Ne.symm hapart

/-- The index has nothing on an endpoint that no live session serves. -/
theorem sessionFor?_eq_none (h : t.Indexed) : t.sessionFor? endpoint = none ↔
    ∀ e ∈ t.entries, e.endpoint ≠ endpoint := by
  rw [Option.eq_none_iff_forall_ne_some]
  constructor
  · intro hnone e he heq
    exact hnone e.id (h.sessionFor?_eq_some.mpr ⟨e, he, heq, rfl⟩)
  · intro hnone id hid
    obtain ⟨e, he, heq, -⟩ := h.sessionFor?_eq_some.mp hid
    exact hnone e he heq

/-- Where no session is live, the index is empty. -/
theorem byEndpoint_eq_nil (h : t.Indexed) (hnone : t.entries = []) : t.byEndpoint = [] := by
  rw [h.index, hnone, List.map_nil, List.reverse_nil]

/-- What is told about the live sessions is already in the order of their numbers. -/
theorem sessions_eq (h : t.Indexed) : t.sessions = t.entries.map Entry.info := by
  refine List.mergeSort_of_pairwise ?_
  have hordered := h.ordered
  rw [ids, List.pairwise_map] at hordered
  rw [List.pairwise_map]
  exact hordered.imp fun hlt => decide_eq_true (Nat.le_of_lt hlt)

/-- A live session stands between sessions of other numbers. -/
theorem split (h : t.Indexed) (he : e ∈ t.entries) :
    ∃ l r, t.entries = l ++ e :: r ∧ ∀ x ∈ l ++ r, x.id ≠ e.id := by
  obtain ⟨l, r, heq⟩ := List.append_of_mem he
  have hnodup := h.nodup_ids
  rw [ids, heq, List.map_append, List.map_cons, List.nodup_middle, ← List.map_append] at hnodup
  refine ⟨l, r, heq, fun x hx hid => ?_⟩
  exact (List.nodup_cons.mp hnodup).1 (hid ▸ List.mem_map_of_mem hx)

end Indexed

section Split

variable {l r : List Entry}

/-- To change a session leaves those around it alone. -/
theorem entries_update (hsplit : t.entries = l ++ e :: r) (hother : ∀ x ∈ l ++ r, x.id ≠ e.id)
    (change : Entry → Entry) : (t.update e.id change).entries = l ++ change e :: r := by
  have hsame {xs : List Entry} (hxs : ∀ x ∈ xs, x ∈ l ++ r) :
      xs.map (fun x => if x.id = e.id then change x else x) = xs := by
    refine (List.map_congr_left fun x hx => ?_).trans (List.map_id' xs)
    exact if_neg (hother x (hxs x hx))
  have hl := hsame fun x hx => List.mem_append_left r hx
  have hr := hsame fun x hx => List.mem_append_right l hx
  simp only [update, hsplit, List.map_append, List.map_cons, hl, hr, if_true]

/-- To forget a session leaves those around it. -/
theorem entries_remove (hsplit : t.entries = l ++ e :: r) (hother : ∀ x ∈ l ++ r, x.id ≠ e.id) :
    (t.remove e).entries = l ++ r := by
  have hsame {xs : List Entry} (hxs : ∀ x ∈ xs, x ∈ l ++ r) :
      xs.filter (fun x => decide (x.id ≠ e.id)) = xs :=
    List.filter_eq_self.mpr fun x hx => decide_eq_true (hother x (hxs x hx))
  have hl := hsame fun x hx => List.mem_append_left r hx
  have hr := hsame fun x hx => List.mem_append_right l hx
  simp only [remove, hsplit, List.filter_append, List.filter_cons, hl, hr, ne_eq,
    not_true_eq_false, decide_false, Bool.false_eq_true, if_false]

end Split

namespace Indexed

/-! ## What operations keep -/

variable {u : Table} {l r : List Entry} {new : Entry}

/-- A session may be replaced by one of its number and endpoint, whose handle has the generation of
the old one or the next. -/
theorem replace (h : t.Indexed) (hsplit : t.entries = l ++ e :: r)
    (hentries : u.entries = l ++ new :: r) (hindex : u.byEndpoint = t.byEndpoint)
    (hnextId : u.nextId = t.nextId) (hid : new.id = e.id) (hendpoint : new.endpoint = e.endpoint)
    (hgeneration : new.generation = e.generation ∧ u.nextGeneration = t.nextGeneration ∨
      new.generation = t.nextGeneration ∧ u.nextGeneration = t.nextGeneration + 1) :
    u.Indexed := by
  have hnext : t.nextGeneration ≤ u.nextGeneration := by omega
  have he : e ∈ t.entries := by simp [hsplit]
  have hothers : ∀ x ∈ l ++ r, x ∈ t.entries := by
    intro x hx
    simp only [hsplit, List.mem_append, List.mem_cons] at hx ⊢
    tauto
  have hids : u.ids = t.ids := by simp [ids, hentries, hsplit, hid]
  have hendpoints : u.endpoints = t.endpoints := by
    simp [Table.endpoints, hentries, hsplit, hendpoint]
  have hcases : ∀ x ∈ u.entries, x = new ∨ x ∈ l ++ r := by
    intro x hx
    simp only [hentries, List.mem_append, List.mem_cons] at hx ⊢
    tauto
  have hapart : (e.generation :: (l ++ r).map (·.generation)).Nodup := by
    have hnodup := h.generations
    rwa [Table.generations, hsplit, List.map_append, List.map_cons, List.nodup_middle,
      ← List.map_append] at hnodup
  refine ⟨hids ▸ h.ordered, hendpoints ▸ h.endpoints, ?_, ?_, ?_, ?_⟩
  · rw [Table.generations, hentries, List.map_append, List.map_cons, List.nodup_middle,
      ← List.map_append, List.nodup_cons]
    refine ⟨fun hmem => ?_, (List.nodup_cons.mp hapart).2⟩
    rcases hgeneration with ⟨hsame, -⟩ | ⟨hfresh, -⟩
    · exact (List.nodup_cons.mp hapart).1 (hsame ▸ hmem)
    · obtain ⟨x, hx, heq⟩ := List.mem_map.mp hmem
      have hlt := h.generations_lt x (hothers x hx)
      omega
  · intro x hx
    rw [hnextId]
    rcases hcases x hx with rfl | hx
    · exact hid ▸ h.ids_lt e he
    · exact h.ids_lt x (hothers x hx)
  · intro x hx
    rcases hcases x hx with rfl | hx
    · have hlt := h.generations_lt e he
      omega
    · exact Nat.lt_of_lt_of_le (h.generations_lt x (hothers x hx)) hnext
  · rw [hindex, h.index, hentries, hsplit]
    simp [hid, hendpoint]

/-- What an event says of a session leaves its number, its endpoint and its handle alone. -/
theorem update (h : t.Indexed) (he : e ∈ t.entries) {change : Entry → Entry}
    (hid : (change e).id = e.id) (hendpoint : (change e).endpoint = e.endpoint)
    (hgeneration : (change e).generation = e.generation) : (t.update e.id change).Indexed := by
  obtain ⟨l, r, hsplit, hother⟩ := h.split he
  exact h.replace hsplit (entries_update hsplit hother change) rfl rfl hid hendpoint
    (.inl ⟨hgeneration, rfl⟩)

/-- A session on a better path has a handle of a generation that is new. -/
theorem migrate (h : t.Indexed) (he : e ∈ t.entries) : (t.migrate (κ := κ) e).1.Indexed := by
  obtain ⟨l, r, hsplit, hother⟩ := h.split he
  exact h.replace hsplit (entries_update hsplit hother _) rfl rfl rfl rfl (.inr ⟨rfl, rfl⟩)

/-- A new session is the last of the list and the first of the index. -/
theorem create (h : t.Indexed) (hnew : ∀ e ∈ t.entries, e.endpoint ≠ endpoint) :
    (t.create (κ := κ) endpoint).1.Indexed := by
  have hindex : t.byEndpoint.filter (·.1 ≠ endpoint) = t.byEndpoint := by
    rw [List.filter_eq_self, h.index]
    simpa using hnew
  refine ⟨?_, ?_, ?_, ?_, ?_, ?_⟩
  · simp only [Table.create, ids, List.map_append, List.map_singleton, List.pairwise_append,
      List.mem_singleton, List.mem_map]
    refine ⟨h.ordered, List.pairwise_singleton _ _, ?_⟩
    rintro _ ⟨e, he, rfl⟩ _ rfl
    exact h.ids_lt e he
  · simp only [Table.create, Table.endpoints, List.map_append, List.map_singleton]
    refine List.nodup_append.mpr ⟨h.endpoints, List.nodup_singleton _, ?_⟩
    simpa using hnew
  · simp only [Table.create, Table.generations, List.map_append, List.map_singleton]
    refine List.nodup_append.mpr ⟨h.generations, List.nodup_singleton _, ?_⟩
    simpa using fun e he => Nat.ne_of_lt (h.generations_lt e he)
  · intro e he
    rcases List.mem_append.mp he with hold | hnew
    · exact Nat.lt_succ_of_lt (h.ids_lt e hold)
    · rw [List.mem_singleton.mp hnew]
      exact Nat.lt_succ_self _
  · intro e he
    rcases List.mem_append.mp he with hold | hnew
    · exact Nat.lt_succ_of_lt (h.generations_lt e hold)
    · rw [List.mem_singleton.mp hnew]
      exact Nat.lt_succ_self _
  · simp only [Table.create, List.map_append, List.map_singleton, List.reverse_append]
    rw [hindex, h.index]
    rfl

/-- A session that is forgotten is missing on both sides. -/
theorem remove (h : t.Indexed) (he : e ∈ t.entries) : (t.remove e).Indexed := by
  have hsub : (t.remove e).entries.Sublist t.entries := List.filter_sublist
  refine ⟨h.ordered.sublist (hsub.map _), h.endpoints.sublist (hsub.map _),
    h.generations.sublist (hsub.map _), fun x hx => h.ids_lt x (hsub.subset hx),
    fun x hx => h.generations_lt x (hsub.subset hx), ?_⟩
  have hfilter : t.entries.filter (fun x => decide ((x.endpoint, x.id) ≠ (e.endpoint, e.id))) =
      t.entries.filter fun x => decide (x.id ≠ e.id) := by
    refine List.filter_congr fun x hx => ?_
    have hsame (hid : x.id = e.id) : x.endpoint = e.endpoint := by rw [h.eq_of_id hx he hid]
    simp only [ne_eq, Prod.mk.injEq, decide_eq_decide]
    tauto
  simp only [Table.remove]
  rw [h.index, List.filter_reverse, List.filter_map, ← hfilter]
  rfl

/-- It is all one whether a table without sessions is touched. -/
theorem cancelAll_eq (h : t.Indexed) : t.cancelAll (κ := κ) =
    ({ t with entries := [], byEndpoint := [] },
      t.entries.map fun e => .cancel e.generation) := by
  by_cases hnone : t.entries = []
  · have hindex := h.byEndpoint_eq_nil hnone
    rw [cancelAll_of_entries_eq_nil hnone, hnone, List.map_nil, ← hnone, ← hindex]
  · exact cancelAll_of_entries_ne_nil hnone

/-- A table whose sessions were all cancelled is empty on both sides. -/
theorem cancelAll (h : t.Indexed) : (t.cancelAll (κ := κ)).1.Indexed := by
  rw [h.cancelAll_eq]
  constructor <;> simp [ids, Table.endpoints, Table.generations]

/-! ## Calls on a table that is in line -/

/-- A datagram goes to the session that serves its endpoint. -/
theorem send_of_mem (h : t.Indexed) (he : e ∈ t.entries) (datagram : Packet) (completion : κ) :
    t.send e.endpoint datagram completion =
      (t, e.id, [.write e.generation datagram completion]) := by
  have hserves := h.sessionFor?_eq_some.mpr ⟨e, he, rfl, rfl⟩
  have hentry := h.entry?_eq_some.mpr ⟨he, rfl⟩
  simp only [send, serve, hserves, hentry, List.nil_append]

/-- Where no session serves an endpoint, a datagram goes to a new one. -/
theorem send_of_forall_ne (h : t.Indexed) (hnew : ∀ e ∈ t.entries, e.endpoint ≠ endpoint)
    (datagram : Packet) (completion : κ) :
    t.send endpoint datagram completion = ((t.create (κ := κ) endpoint).1, t.nextId,
      [.create t.nextId t.nextGeneration endpoint t.requiredInterface,
        .write t.nextGeneration datagram completion]) := by
  have hserves := h.sessionFor?_eq_none.mpr hnew
  have hentry : Table.entry? (t.create (κ := κ) endpoint).1 t.nextId =
      some ⟨t.nextId, endpoint, t.nextGeneration, false, true⟩ :=
    (h.create hnew).entry?_eq_some.mpr ⟨List.mem_append_right _ List.mem_cons_self, rfl⟩
  simp only [Table.create] at hentry
  simp only [send, serve, hserves, Table.create, hentry, List.singleton_append]

/-- What the current handle of a session reports is applied. -/
theorem notify_of_mem (h : t.Indexed) (he : e ∈ t.entries) (event : Event) :
    t.notify (κ := κ) ⟨e.id, e.generation, event⟩ = t.apply e event := by
  have hentry := h.entry?_eq_some.mpr ⟨he, rfl⟩
  simp only [notify, hentry, if_true]

end Indexed

/-- What any handle reports that is not the current one of a live session is not applied. -/
theorem notify_of_forall_ne {n : Notification}
    (hstale : ∀ e ∈ t.entries, e.id = n.session → e.generation ≠ n.generation) :
    t.notify (κ := κ) n = (t, none, []) := by
  rw [notify]
  rcases hentry : t.entry? n.session with _ | e
  · rfl
  · have hid := List.find?_some hentry
    have hne := hstale e (List.mem_of_find?_eq_some hentry) (of_decide_eq_true hid)
    simp only [hne, if_false]

end PacketTunnel.Session.Table
