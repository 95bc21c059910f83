import PacketTunnel.Proofs.HandleLedger

/-!
# Events of handles that are gone

A handle that is current no more is never current again, since generations are not given twice. So
whatever it still reports, and whenever, is dropped: nothing changes, nothing is done with handles,
and no datagrams come in. In particular a session that moved to a better path is not forgotten when
the handle that it had reports its end, and a better path is taken up once, however often a handle
announces it.
-/

namespace PacketTunnel.Session

variable {κ : Type}

/-- A generation was issued, and no current handle has it. -/
def Table.Gone (t : Table) (g : Nat) : Prop := g < t.nextGeneration ∧ g ∉ t.generations

/-- What a handle reports that is gone is not heeded. -/
theorem Table.Gone.not_heeds {t : Table} {x : Handle} (h : t.Gone x.generation) (event : Event) :
    ¬t.Heeds (x.reports event) := by
  rintro ⟨e, he, -, hgeneration⟩
  have hsame : e.generation = x.generation := hgeneration
  exact h.2 (hsame ▸ List.mem_map_of_mem he)

/-- Whether a handle announces a better path with a call. -/
def Worked.announces (w : Worked κ) (x : Handle) : Bool :=
  match w.call with
  | .notify n => decide (n = x.reports .betterPath)
  | .send _ _ _ | .demand _ | .cancelAll => false

/-- Whether an effect sets up a handle on a better path. -/
def Effect.upgrades : Effect κ → Bool
  | .upgrade _ _ _ _ => true
  | .create _ _ _ _ | .write _ _ _ | .cancel _ => false

/-- The upgrades that a handle's announcements of better paths led to. -/
def upgradesBy (x : Handle) (record : List (Worked κ)) : List (Effect κ) :=
  (effectsOf (record.filter (·.announces x))).filter Effect.upgrades

namespace Worked.Move

variable {w : Worked κ} {x : Handle} {g : Nat}

/-- What is gone stays so. -/
theorem gone (h : w.Move) (hindexed : w.before.Indexed) (hgone : w.before.Gone g) :
    w.after.Gone g := by
  obtain ⟨-, handles, -, -, -, -, -, hnext⟩ := h.numbers
  refine ⟨by have := hgone.1; omega, fun hmem => ?_⟩
  rw [Table.generations_eq] at hmem
  obtain ⟨x, hx, rfl⟩ := List.mem_map.mp hmem
  rcases h.of_handle hindexed hx with hbefore | hmade
  · exact hgone.2 (Table.generation_mem hbefore)
  · exact Nat.not_lt.mpr (h.nextGeneration_le hmade) hgone.1

/-- A handle that is current no more is gone. -/
theorem gone_of_ends (h : w.Move) (hindexed : w.before.Indexed) (hends : w.Ends x) :
    w.after.Gone x.generation := by
  have hx : x ∈ w.before.handles := by
    rcases hends with hends | hends | hends <;> exact hends.2.1
  have hlt := hindexed.handle_lt hx
  obtain ⟨-, handles, -, -, -, -, -, hnext⟩ := h.numbers
  refine ⟨by omega, fun hmem => ?_⟩
  rw [Table.generations_eq] at hmem
  obtain ⟨y, hy, heq⟩ := List.mem_map.mp hmem
  rcases h.of_handle hindexed hy with hbefore | hmade
  · obtain rfl := hindexed.handle_eq hbefore hx heq
    exact (h.ends_iff hindexed hx).mp hends hy
  · have hle := h.nextGeneration_le hmade
    omega

/-- An announcement leads to an upgrade if it is by a current handle, which then is gone. -/
theorem of_announces (h : w.Move) (hindexed : w.before.Indexed) (hannounces : w.announces x) :
    w.effects.filter Effect.upgrades = [] ∨
      (w.effects.filter Effect.upgrades).length = 1 ∧ w.before.Heeds (x.reports .betterPath) ∧
        w.after.Gone x.generation := by
  cases h with
  | reused | opened | ignored | heard | lost | demanded => exact .inl rfl
  | cleared => simp [announces] at hannounces
  | @migrated t e he =>
    have hsame : e.handle.reports .betterPath = x.reports .betterPath :=
      of_decide_eq_true hannounces
    have hgeneration : e.generation = x.generation := congrArg Notification.generation hsame
    refine .inr ⟨rfl, ⟨e, he, congrArg Notification.session hsame, hgeneration⟩, ?_⟩
    rw [← hgeneration]
    exact (Move.migrated he).gone_of_ends hindexed (.inl (replaces_migrate hindexed he))

end Worked.Move

theorem upgradesBy_snoc (x : Handle) (record : List (Worked κ)) (w : Worked κ) :
    upgradesBy x (record ++ [w]) =
      upgradesBy x record ++ if w.announces x then w.effects.filter Effect.upgrades else [] := by
  cases hannounces : w.announces x <;> simp [upgradesBy, effectsOf, hannounces]

namespace History

variable {record before after : List (Worked κ)} {w : Worked κ} {t : Table} {x : Handle} {g : Nat}

/-- What is gone at some time of a run is gone ever after. -/
theorem gone (h : History (before ++ w :: after) t) (hgone : w.after.Gone g) : t.Gone g := by
  induction after using List.reverseRecOn generalizing t with
  | nil => exact h.eq_after ▸ hgone
  | append_singleton rest last ih =>
    rw [← List.cons_append, ← List.append_assoc] at h
    obtain rfl := h.eq_after
    exact h.move.gone h.at_call.1.indexed (ih h.at_call.1)

/-- A handle that is current no more never is again. -/
theorem gone_of_ends (h : History (before ++ w :: after) t) (hends : w.Ends x) :
    t.Gone x.generation := h.gone (h.move.gone_of_ends h.at_call.1.indexed hends)

/-- A handle's announcements lead to one upgrade at most, and with it the handle is gone. -/
theorem upgradesBy_le (h : History record t) (x : Handle) :
    upgradesBy x record = [] ∨ (upgradesBy x record).length = 1 ∧ t.Gone x.generation := by
  induction h with
  | nil => exact .inl rfl
  | @snoc record w h hsound ih =>
    have hmove := hsound.move h.indexed
    rw [upgradesBy_snoc]
    split
    next hannounces =>
      rcases hmove.of_announces h.indexed hannounces with hnone | ⟨hone, hheeds, hgone⟩
      · rw [hnone, List.append_nil]
        exact ih.imp_right fun ih => ⟨ih.1, hmove.gone h.indexed ih.2⟩
      · rcases ih with hfirst | ⟨-, hbefore⟩
        · exact .inr ⟨by rw [hfirst, List.nil_append, hone], hgone⟩
        · exact absurd hheeds (hbefore.not_heeds _)
    next =>
      rw [List.append_nil]
      exact ih.imp_right fun ih => ⟨ih.1, hmove.gone h.indexed ih.2⟩

end History

/-- What becomes of the events of handles that are gone. -/
structure StaleEvents (record : List (Worked κ)) (t : Table) : Prop where
  /-- A handle stays current until another takes its place, or it reports that it was cancelled, or
  every session is cancelled. -/
  ends : ∀ w ∈ record, ∀ x ∈ w.before.handles, w.Ends x ↔ x ∉ w.after.handles
  /-- From then on, whatever it reports is dropped. -/
  dropped : ∀ before w after, record = before ++ w :: after → ∀ x, w.Ends x →
    ∀ later ∈ after, ∀ event, later.call = .notify (x.reports event) →
      later.after = later.before ∧ later.datagrams = none ∧ later.effects = []
  /-- So is what it may yet report after the run. -/
  silent : ∀ w ∈ record, ∀ x, w.Ends x →
    ∀ event, t.notify (κ := κ) (x.reports event) = (t, none, [])
  /-- A session is forgotten only if its current handle reports that it was cancelled, or every
  session is cancelled. -/
  forgotten : ∀ w ∈ record, ∀ x ∈ w.before.handles, x.session ∉ w.after.ids →
    w.Loses x ∨ w.Clears x
  /-- A better path that a handle announces leads to at most one upgrade. -/
  once : ∀ x, (upgradesBy x record).length ≤ 1

/-- Every run drops the events of handles that are gone. -/
theorem staleEvents_run {record : List (Worked κ)} {t : Table} (h : History record t) :
    StaleEvents record t := by
  refine ⟨?_, ?_, ?_, ?_, fun x => ?_⟩
  · intro w hw x hx
    obtain ⟨hmove, hindexed⟩ := h.of_mem hw
    exact hmove.ends_iff hindexed hx
  · rintro before w after rfl x hends later hlater event hcall
    obtain ⟨between, rest, rfl⟩ := List.append_of_mem hlater
    rw [← List.cons_append, ← List.append_assoc] at h
    exact h.at_call.2.1.of_stale ((h.at_call.1.gone_of_ends hends).not_heeds event) hcall
  · intro w hw x hends event
    obtain ⟨before, after, rfl⟩ := List.append_of_mem hw
    exact Table.notify_of_not_heeds ((h.gone_of_ends hends).not_heeds event)
  · intro w hw x hx hforgotten
    obtain ⟨hmove, hindexed⟩ := h.of_mem hw
    have hafter : x ∉ w.after.handles := fun hmem => hforgotten (Table.session_mem hmem)
    rcases (hmove.ends_iff hindexed hx).mpr hafter with hends | hends
    · obtain ⟨-, -, y, hy, hsession, -⟩ := hends
      exact absurd (Table.session_mem hy) (hsession ▸ hforgotten)
    · exact hends
  · rcases h.upgradesBy_le x with hnone | ⟨hone, -⟩
    · simp [hnone]
    · exact Nat.le_of_eq hone

/-- The first handle announced a better path twice, and was replaced once. -/
theorem staleEvents_course :
    (∃ w ∈ (Table.empty.run course).1, w.Replaces ⟨1, 1, near⟩) ∧
    (∃ w ∈ (Table.empty.run course).1, w.Loses ⟨2, 2, far⟩) ∧
    (∃ w ∈ (Table.empty.run course).1, w.Clears ⟨1, 3, near⟩) ∧
    ((Table.empty.run course).1.filter (·.announces ⟨1, 1, near⟩)).length = 2 ∧
    upgradesBy ⟨1, 1, near⟩ (Table.empty.run course).1 = [.upgrade 1 3 near none] ∧
    StaleEvents (Table.empty.run course).1 (Table.empty.run course).2 :=
  ⟨by decide, by decide, by decide, by decide, by decide, staleEvents_run (history_run course)⟩

end PacketTunnel.Session
