import Mathlib.Logic.Function.Iterate
import Mathlib.Order.Monotone.Basic
import PacketTunnel.Backoff
import PacketTunnel.Proofs.SpanWords

/-!
# The delays of a growing policy

Growth cuts every delay at its cap and at the longest span before it goes on from there. Nothing is
lost by that: delay number `k` is the first delay times the `k`-th power of the factor, cut once.
Delays that are drawn lie in the window below the delay of the same number, and no draw is felt by a
later one.
-/

namespace PacketTunnel

/-- A cut in front of a product is no other than the cut behind it. -/
theorem min_mul_min (x bound n : Nat) : min (min x bound * n) bound = min (x * n) bound := by
  by_cases hzero : n = 0
  · rw [hzero, Nat.mul_zero, Nat.mul_zero]
  have hbound : bound ≤ bound * n := Nat.le_mul_of_pos_right bound (Nat.pos_of_ne_zero hzero)
  rcases Nat.le_total x bound with hle | hle
  · rw [Nat.min_eq_left hle]
  · have hcut : bound ≤ x * n := Nat.le_trans hbound (Nat.mul_le_mul_right n hle)
    rw [Nat.min_eq_right hle, Nat.min_eq_right hbound, Nat.min_eq_right hcut]

namespace Growth

variable (g : Growth)

/-- The growth that goes on after `k` delays. -/
def after (k : Nat) : Growth := (fun g : Growth => g.step.2)^[k] g

/-- Delay number `k`. -/
def delay (k : Nat) : Span := (g.after k).step.1

theorem after_succ (k : Nat) : g.after (k + 1) = (g.after k).step.2 :=
  Function.iterate_succ_apply' ..

theorem factor_after (k : Nat) : (g.after k).factor = g.factor := by
  induction k with
  | zero => rfl
  | succ k ih => rw [after_succ, ← ih]; rfl

theorem cap_after (k : Nat) : (g.after k).cap = g.cap := by
  induction k with
  | zero => rfl
  | succ k ih => rw [after_succ, ← ih]; rfl

/-- The longest delay that a growth can give. -/
def ceiling : Nat := g.cap.elim Span.limit Span.nanos

theorem nanos_capped (s : Span) : (s.capped g.cap).nanos = min s.nanos g.ceiling := by
  unfold ceiling
  cases g.cap with
  | none => exact (Nat.min_eq_left s.nanos_le_limit).symm
  | some cap =>
    simp only [Span.capped, Option.elim_some]
    split <;> omega

theorem ceiling_le : g.ceiling ≤ Span.limit := by
  unfold ceiling
  cases g.cap with
  | none => exact Nat.le_refl _
  | some cap => exact cap.nanos_le_limit

/-- Each delay is the one before it times the factor, cut at the cap. -/
theorem delay_succ (k : Nat) :
    g.delay (k + 1) = ((g.delay k).scale g.factor.toNat).capped g.cap := by
  have hstep : g.delay (k + 1) =
      (((g.delay k).scale (g.after k).factor.toNat).capped (g.after k).cap).capped
        (g.after k).cap := by
    rw [delay, after_succ]
    rfl
  -- The cap is applied where a delay is planned and again where it is given.
  rw [hstep, factor_after, cap_after]
  ext
  rw [nanos_capped, nanos_capped, Nat.min_assoc, Nat.min_self]

theorem nanos_delay (k : Nat) :
    (g.delay k).nanos = min (g.initial.nanos * g.factor.toNat ^ k) g.ceiling := by
  induction k with
  | zero => rw [pow_zero, Nat.mul_one]; exact g.nanos_capped g.initial
  | succ k ih =>
    calc (g.delay (k + 1)).nanos
        = min (min ((g.delay k).nanos * g.factor.toNat) Span.limit) g.ceiling := by
          rw [delay_succ, nanos_capped, Span.scale, Span.nanos_clamp]
      _ = min (min (g.initial.nanos * g.factor.toNat ^ k) g.ceiling * g.factor.toNat) g.ceiling := by
          rw [Nat.min_assoc, Nat.min_eq_right g.ceiling_le, ih]
      _ = min (g.initial.nanos * g.factor.toNat ^ (k + 1)) g.ceiling := by
          rw [min_mul_min, pow_succ, Nat.mul_assoc]

/-- Delay number `k` in nanoseconds: the first times a power of the factor, cut at the cap, if there
is one, and at the longest span. -/
def closed (k : Nat) : Nat :=
  match g.cap with
  | none => min (g.initial.nanos * g.factor.toNat ^ k) (2 ^ 64 * 10 ^ 9 - 1)
  | some cap => min (min (g.initial.nanos * g.factor.toNat ^ k) cap.nanos) (2 ^ 64 * 10 ^ 9 - 1)

theorem closed_eq (k : Nat) : g.closed k = (g.delay k).nanos := by
  rw [nanos_delay, closed, ceiling, ← Span.limit_eq]
  cases g.cap with
  | none => rfl
  | some cap =>
    simp only [Option.elim_some]
    rw [Nat.min_assoc, Nat.min_eq_left cap.nanos_le_limit]

theorem nanos_delay_mono (h : 1 ≤ g.factor.toNat) : Monotone fun k => (g.delay k).nanos := by
  intro j k hle
  have hpow : g.factor.toNat ^ j ≤ g.factor.toNat ^ k := Nat.pow_le_pow_right h hle
  have hmul := Nat.mul_le_mul_left g.initial.nanos hpow
  simp only [nanos_delay]
  omega

/-- Words grow as delays do. -/
theorem words_delay_succ (k : Nat) :
    (g.delay (k + 1)).words = (g.delay k).words.grow g.factor (g.cap.map Span.words) := by
  rw [delay_succ, Span.words_capped, Span.words_scale]
  rfl

end Growth

namespace Delays

/-- What is left of a sequence when its first `k` delays are taken, each under the draw made for
it. -/
def after? (draws : Nat → Nat) (d : Delays) : Nat → Option Delays
  | 0 => some d
  | k + 1 => (d.after? draws k).bind fun rest => (rest.next? (draws k)).map (·.2)

/-- Delay number `k` of a sequence whose delays are taken one after the other. -/
def given? (draws : Nat → Nat) (d : Delays) (k : Nat) : Option Span :=
  (d.after? draws k).bind fun rest => (rest.next? (draws k)).map (·.1)

theorem isSome_bound?_rest (d : Delays) : d.rest.bound?.isSome = d.bound?.isSome := by
  cases d <;> rfl

/-- A sequence that has a delay has another one behind it, whatever was drawn. -/
theorem after?_eq {d : Delays} (h : d.bound?.isSome) (draws : Nat → Nat) (k : Nat) :
    d.after? draws k = some (rest^[k] d) ∧ (rest^[k] d).bound?.isSome := by
  induction k with
  | zero => exact ⟨rfl, h⟩
  | succ k ih =>
    obtain ⟨hafter, hsome⟩ := ih
    obtain ⟨bound, hbound⟩ := Option.isSome_iff_exists.mp hsome
    rw [Function.iterate_succ_apply', isSome_bound?_rest]
    refine ⟨?_, hsome⟩
    rw [after?, hafter, Option.bind_some, next?, hbound]
    rfl

theorem given?_eq {d : Delays} (h : d.bound?.isSome) (draws : Nat → Nat) (k : Nat) :
    d.given? draws k = ((rest^[k] d).next? (draws k)).map (·.1) := by
  rw [given?, (after?_eq h draws k).1, Option.bind_some]

/-- The rest of a sequence that grows is the sequence of what its growth becomes. -/
theorem iterate_rest {sequence : Growth → Delays}
    (hrest : ∀ g, (sequence g).rest = sequence g.step.2) (g : Growth) (k : Nat) :
    rest^[k] (sequence g) = sequence (g.after k) := by
  induction k with
  | zero => rfl
  | succ k ih => rw [Function.iterate_succ_apply', ih, hrest, Growth.after_succ]

theorem given?_exponential (g : Growth) (draws : Nat → Nat) (k : Nat) :
    (exponential g).given? draws k = some (g.delay k) := by
  rw [given?_eq rfl, iterate_rest fun _ => rfl]
  rfl

theorem given?_jittered (g : Growth) (draws : Nat → Nat) (k : Nat) :
    (jittered g).given? draws k = some (Jitter.pick (draws k) (g.delay k)) := by
  rw [given?_eq rfl, iterate_rest fun _ => rfl]
  rfl

end Delays

namespace Jitter

variable {bound delay : Span}

theorem nanos_pick (draw : Nat) (bound : Span) :
    (pick draw bound).nanos = top bound / 2 + draw % (top bound - top bound / 2 + 1) := by
  have hrest : draw % (top bound - top bound / 2 + 1) < top bound - top bound / 2 + 1 :=
    Nat.mod_lt _ (Nat.succ_pos _)
  have htop : top bound ≤ bound.nanos := Nat.min_le_left ..
  have hlimit := bound.nanos_le_limit
  rw [pick, Span.nanos_clamp]
  omega

/-- A draw picks a delay from the window. -/
theorem within_pick (draw : Nat) (bound : Span) : Within bound (pick draw bound) := by
  have hrest : draw % (top bound - top bound / 2 + 1) < top bound - top bound / 2 + 1 :=
    Nat.mod_lt _ (Nat.succ_pos _)
  rw [Within, nanos_pick]
  omega

/-- Each delay of the window can be drawn. -/
theorem exists_pick (h : Within bound delay) : ∃ draw, pick draw bound = delay := by
  obtain ⟨hlow, hhigh⟩ := h
  refine ⟨delay.nanos - top bound / 2, Span.ext ?_⟩
  rw [nanos_pick, Nat.mod_eq_of_lt (by omega)]
  omega

end Jitter

namespace Backoff

/-- A policy whose delays grow gives delays for ever. Delay number `k` is the first one times the
`k`-th power of the factor, in whole numbers, cut at the cap and at the longest span; so none is
longer than the cap, and they do not get shorter unless the factor is zero. Each is what words with
a carry make of the one before it. -/
theorem given_exponential (g : Growth) (draws : Nat → Nat) :
    ∃ delay : Nat → Span, (∀ k, (exponential g).delays.given? draws k = some (delay k)) ∧
      (∀ k, (delay k).nanos = g.closed k) ∧
      (∀ k, ∀ cap ∈ g.cap, (delay k).nanos ≤ cap.nanos) ∧
      (∀ k, (delay k).nanos ≤ 2 ^ 64 * 10 ^ 9 - 1) ∧
      (1 ≤ g.factor.toNat → Monotone fun k => (delay k).nanos) ∧
      (delay 0).words = g.initial.words.capped (g.cap.map Span.words) ∧
      ∀ k, (delay (k + 1)).words = (delay k).words.grow g.factor (g.cap.map Span.words) := by
  refine ⟨g.delay, fun k => Delays.given?_exponential g draws k, fun k => (g.closed_eq k).symm, ?_,
    ?_, g.nanos_delay_mono, g.initial.words_capped g.cap, g.words_delay_succ⟩
  · intro k cap hcap
    have hceiling : g.ceiling = cap.nanos := by rw [Growth.ceiling, hcap, Option.elim_some]
    rw [g.nanos_delay, hceiling]
    exact Nat.min_le_right ..
  · intro k
    rw [← Span.limit_eq]
    exact (g.delay k).nanos_le_limit

/-- One second, then three times as long each time, up to ten seconds. -/
def threefold : Growth := { initial := .ofSeconds 1, factor := 3, cap := some (.ofSeconds 10) }

/-- It gives 1, 3, 9, 10, 10, … seconds. -/
theorem given_threefold : 1 ≤ threefold.factor.toNat ∧
    (List.range 5).map threefold.closed = [1, 3, 9, 10, 10].map (· * 10 ^ 9) ∧
    ∃ delay : Nat → Span, (∀ k, (exponential threefold).delays.given? id k = some (delay k)) ∧
      (∀ k, (delay k).nanos = threefold.closed k) ∧ Monotone fun k => (delay k).nanos := by
  obtain ⟨delay, hgiven, hclosed, -, -, hmono, -⟩ := given_exponential threefold id
  exact ⟨by decide, by decide, delay, hgiven, hclosed, hmono (by decide)⟩

/-- Where delays are drawn, delay number `k` lies between half of what the same growth gives without
draws, or of what 64 bits of nanoseconds hold if that is less, and the whole of it. It depends on the
draw made for it and on no other, and each delay of that window can be drawn. -/
theorem given_jittered (g : Growth) (draws : Nat → Nat) (k : Nat) :
    ∃ bound delay : Span,
      (∀ others, (exponential g).delays.given? others k = some bound) ∧
      (jittered g).delays.given? draws k = some delay ∧
      min bound.nanos (2 ^ 64 - 1) / 2 ≤ delay.nanos ∧
      delay.nanos ≤ min bound.nanos (2 ^ 64 - 1) ∧ delay.nanos ≤ bound.nanos ∧
      (∀ others, others k = draws k → (jittered g).delays.given? others k = some delay) ∧
      ∀ drawn, Jitter.Within bound drawn →
        ∃ draw, ∀ others, others k = draw → (jittered g).delays.given? others k = some drawn := by
  obtain ⟨hlow, hhigh⟩ := Jitter.within_pick (draws k) (g.delay k)
  refine ⟨g.delay k, Jitter.pick (draws k) (g.delay k), fun _ => Delays.given?_exponential ..,
    Delays.given?_jittered .., hlow, hhigh, Nat.le_trans hhigh (Nat.min_le_left ..), ?_, ?_⟩
  · intro others hsame
    rw [← hsame]
    exact Delays.given?_jittered ..
  · intro drawn hwithin
    obtain ⟨draw, hdraw⟩ := Jitter.exists_pick hwithin
    refine ⟨draw, fun others hothers => ?_⟩
    rw [← hdraw, ← hothers]
    exact Delays.given?_jittered ..

end Backoff

end PacketTunnel
