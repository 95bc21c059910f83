import Mathlib.Data.List.Range
import PacketTunnel.Proofs.SessionRun

/-!
# Numbers and generations

After every run of a session table, sessions and index are inverse to each other and the sessions
are told about in the order of their numbers. Over the whole run, sessions are created under the
numbers 1, 2, 3 and so on, and handles are set up under the generations 1, 2, 3 and so on, so that
neither is ever given again, whatever was cancelled or forgotten in between.
-/

namespace PacketTunnel.Session

open Net

variable {κ : Type}

/-- Where every session is cancelled, nothing is set up. -/
theorem made_cancels {t : Table} {cancels : List (Effect κ)} (h : cancels.Perm t.cancelAll.2) :
    made cancels = [] ∧ created cancels = [] := by
  constructor
  · refine List.filterMap_eq_nil_iff.mpr fun x hx => ?_
    obtain ⟨e, -, rfl⟩ := mem_cancelAll (h.subset hx)
    rfl
  · refine List.filterMap_eq_nil_iff.mpr fun x hx => ?_
    obtain ⟨e, -, rfl⟩ := mem_cancelAll (h.subset hx)
    rfl

/-- A call creates at most one session and sets up at most one handle, each with the next number. -/
theorem Worked.Move.numbers {w : Worked κ} (h : w.Move) : ∃ sessions handles,
    sessions ≤ handles ∧ handles ≤ 1 ∧
    created w.effects = List.range' w.before.nextId sessions ∧
    w.after.nextId = w.before.nextId + sessions ∧
    issued w.effects = List.range' w.before.nextGeneration handles ∧
    w.after.nextGeneration = w.before.nextGeneration + handles := by
  cases h with
  | reused | ignored | heard | lost | demanded =>
    exact ⟨0, 0, Nat.le_refl _, Nat.zero_le _, rfl, rfl, rfl, rfl⟩
  | opened => exact ⟨1, 1, Nat.le_refl _, Nat.le_refl _, rfl, rfl, rfl, rfl⟩
  | migrated => exact ⟨0, 1, Nat.zero_le _, Nat.le_refl _, rfl, rfl, rfl, rfl⟩
  | cleared t horder =>
    obtain ⟨hmade, hcreated⟩ := made_cancels horder
    obtain ⟨-, hnextId, hnextGeneration⟩ := t.frame_cancelAll (κ := κ)
    refine ⟨0, 0, Nat.le_refl _, Nat.zero_le _, hcreated, hnextId, ?_, hnextGeneration⟩
    rw [issued, hmade]
    rfl

/-- What is set up by a call has a generation that was not issued before. -/
theorem Worked.Move.nextGeneration_le {w : Worked κ} (h : w.Move) {x : Handle}
    (hx : x ∈ made w.effects) : w.before.nextGeneration ≤ x.generation := by
  obtain ⟨-, handles, -, -, -, -, hissued, -⟩ := h.numbers
  have hmem : x.generation ∈ issued w.effects := List.mem_map_of_mem hx
  rw [hissued, List.mem_range'_1] at hmem
  exact hmem.1

/-- Numbers that count from one go on with the next ones. -/
theorem range'_of_append {before more : List Nat} (h : before = List.range' 1 before.length)
    (hmore : more = List.range' (1 + before.length) more.length) :
    before ++ more = List.range' 1 (before ++ more).length := by
  conv_lhs => rw [h, hmore]
  rw [List.range'_append_1, List.length_append]

/-- Sessions and handles are numbered from one, without gaps. -/
structure Numbered (record : List (Worked κ)) (t : Table) : Prop where
  /-- The numbers of the sessions that were created. -/
  created : created (effectsOf record) = List.range' 1 (created (effectsOf record)).length
  /-- The number of the next one. -/
  nextId : t.nextId = 1 + (Session.created (effectsOf record)).length
  /-- The generations of the handles that were set up. -/
  issued : issued (effectsOf record) = List.range' 1 (issued (effectsOf record)).length
  /-- The generation of the next one. -/
  nextGeneration : t.nextGeneration = 1 + (Session.issued (effectsOf record)).length
  /-- Every session came with a handle, and every handle with a call, so numbers never run ahead of
  the calls. -/
  bound : (Session.created (effectsOf record)).length ≤
    (Session.issued (effectsOf record)).length ∧
    (Session.issued (effectsOf record)).length ≤ record.length

theorem History.numbered {record : List (Worked κ)} {t : Table} (h : History record t) :
    Numbered record t := by
  induction h with
  | nil => exact ⟨rfl, rfl, rfl, rfl, Nat.le_refl _, Nat.le_refl _⟩
  | @snoc record w h hsound ih =>
    obtain ⟨sessions, handles, hle, hone, hcreated, hnextId, hissued, hnextGeneration⟩ :=
      (hsound.move h.indexed).numbers
    have hsessions : (created w.effects).length = sessions := by simp [hcreated]
    have hhandles : (issued w.effects).length = handles := by simp [hissued]
    obtain ⟨hbound, hcalls⟩ := ih.bound
    have hid := ih.nextId
    have hgeneration := ih.nextGeneration
    refine ⟨?_, ?_, ?_, ?_, ?_⟩
    · rw [effectsOf_snoc, created_append]
      exact range'_of_append ih.created (by rw [hsessions, ← hid, hcreated])
    · simp only [effectsOf_snoc, created_append, List.length_append]
      omega
    · rw [effectsOf_snoc, issued_append]
      exact range'_of_append ih.issued (by rw [hhandles, ← hgeneration, hissued])
    · simp only [effectsOf_snoc, issued_append, List.length_append]
      omega
    · simp only [effectsOf_snoc, issued_append, created_append, List.length_append,
        List.length_singleton]
      omega

/-- What the table of a run tells about its sessions. -/
structure Represented (record : List (Worked κ)) (t : Table) : Prop where
  /-- A session of a number serves an endpoint just if the index leads from the endpoint to the
  number. -/
  inverse : ∀ id endpoint, (∃ e, t.entry? id = some e ∧ e.endpoint = endpoint) ↔
    t.sessionFor? endpoint = some id
  /-- So no two sessions serve one endpoint. -/
  apart : ∀ a b e f, t.entry? a = some e → t.entry? b = some f → e.endpoint = f.endpoint → a = b
  /-- Numbers and generations in use are below the next ones. -/
  bounded : ∀ id e, t.entry? id = some e → id < t.nextId ∧ e.generation < t.nextGeneration
  /-- No two sessions have handles of one generation. -/
  distinct : ∀ a b e f, t.entry? a = some e → t.entry? b = some f →
    e.generation = f.generation → a = b
  /-- Sessions are created under the numbers from one on, and handles set up under the generations
  from one on, in order and without gaps, so neither is given again. -/
  numbered : Numbered record t
  /-- A handle on a better path is set up for a session that is live, under the number and for the
  endpoint that it has; this is the only way for a number to come up again. -/
  upgraded : ∀ w ∈ record, ∀ session generation endpoint interface,
    .upgrade session generation endpoint interface ∈ w.effects →
      ∃ e, w.before.entry? session = some e ∧ e.endpoint = endpoint ∧
        w.call = .notify ⟨session, e.generation, .betterPath⟩
  /-- The sessions that are told about are those that are live, each once, in the order of their
  numbers. -/
  sessions : t.sessions.Pairwise (·.id < ·.id) ∧
    ∀ info, info ∈ t.sessions ↔ ∃ e, t.entry? info.id = some e ∧ e.info = info

/-- A better path leads to an upgrade, and nothing else does. -/
theorem Worked.Move.of_upgrade {w : Worked κ} (h : w.Move) {session generation : Nat}
    {endpoint : Endpoint} {interface : Option String}
    (hmem : .upgrade session generation endpoint interface ∈ w.effects) :
    ∃ e ∈ w.before.entries, e.id = session ∧ e.endpoint = endpoint ∧
      w.call = .notify (e.handle.reports .betterPath) := by
  cases h with
  | reused | opened | ignored | heard | lost | demanded => simp at hmem
  | @migrated t e he =>
    simp only [List.mem_cons, Effect.upgrade.injEq, reduceCtorEq, List.not_mem_nil,
      or_false] at hmem
    exact ⟨e, he, hmem.1.symm, hmem.2.2.1.symm, rfl⟩
  | cleared t horder =>
    obtain ⟨e, -, heq⟩ := mem_cancelAll (horder.subset hmem)
    simp at heq

/-- Every run leads to a table that represents its sessions. -/
theorem represented_run {record : List (Worked κ)} {t : Table} (h : History record t) :
    Represented record t := by
  have hindexed := h.indexed
  refine ⟨fun id endpoint => ?_, ?_, ?_, ?_, h.numbered, ?_, ?_, ?_⟩
  · simp only [hindexed.entry?_eq_some, hindexed.sessionFor?_eq_some]
    constructor
    · rintro ⟨e, ⟨he, hid⟩, hendpoint⟩
      exact ⟨e, he, hendpoint, hid⟩
    · rintro ⟨e, he, hendpoint, hid⟩
      exact ⟨e, ⟨he, hid⟩, hendpoint⟩
  · intro a b e f he hf heq
    obtain ⟨hlive, rfl⟩ := hindexed.entry?_eq_some.mp he
    obtain ⟨hother, rfl⟩ := hindexed.entry?_eq_some.mp hf
    rw [hindexed.eq_of_endpoint hlive hother heq]
  · intro id e he
    obtain ⟨hlive, rfl⟩ := hindexed.entry?_eq_some.mp he
    exact ⟨hindexed.ids_lt e hlive, hindexed.generations_lt e hlive⟩
  · intro a b e f he hf heq
    obtain ⟨hlive, rfl⟩ := hindexed.entry?_eq_some.mp he
    obtain ⟨hother, rfl⟩ := hindexed.entry?_eq_some.mp hf
    rw [hindexed.eq_of_generation hlive hother heq]
  · intro w hw session generation endpoint interface hmem
    obtain ⟨hmove, hbefore⟩ := h.of_mem hw
    obtain ⟨e, he, rfl, hendpoint, hcall⟩ := hmove.of_upgrade hmem
    exact ⟨e, hbefore.entry?_eq_some.mpr ⟨he, rfl⟩, hendpoint, hcall⟩
  · rw [hindexed.sessions_eq, List.pairwise_map]
    exact List.pairwise_map.mp hindexed.ordered
  · intro info
    rw [hindexed.sessions_eq, List.mem_map]
    constructor
    · rintro ⟨e, he, rfl⟩
      exact ⟨e, hindexed.entry?_eq_some.mpr ⟨he, rfl⟩, rfl⟩
    · rintro ⟨e, he, hinfo⟩
      exact ⟨e, (hindexed.entry?_eq_some.mp he).1, hinfo⟩

/-- Four sessions were created and five handles set up, and the last session is the only one that
is live. -/
theorem represented_course :
    created (effectsOf (Table.empty.run course).1) = [1, 2, 3, 4] ∧
    issued (effectsOf (Table.empty.run course).1) = [1, 2, 3, 4, 5] ∧
    (Table.empty.run course).2.entries = [⟨4, near, 5, false, true⟩] ∧
    Represented (Table.empty.run course).1 (Table.empty.run course).2 :=
  ⟨by decide, by decide, by decide, represented_run (history_run course)⟩

end PacketTunnel.Session
