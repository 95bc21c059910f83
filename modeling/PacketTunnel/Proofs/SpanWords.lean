import Mathlib.Algebra.GroupWithZero.Nat
import PacketTunnel.Span

/-!
# Spans in machine words

A clock keeps a span as whole seconds and the nanoseconds beyond them, each in a word of its own.
Repeating it multiplies both and carries what the nanoseconds come to beyond a second; the seconds
may leave their word then, and the span is held at the longest. That is what repeating its
nanoseconds comes to, and spans are compared word by word as their nanoseconds are.
-/

namespace PacketTunnel

/-- A span in machine words. -/
@[ext] structure Words where
  /-- Whole seconds. -/
  seconds : UInt64
  /-- Nanoseconds beyond them. -/
  nanos : UInt32
  deriving DecidableEq

/-- The words of a span. -/
def Span.words (s : Span) : Words := ⟨.ofNat s.seconds, .ofNat s.subsecond⟩

namespace Words

/-- The longest span in words. -/
def longest : Words := ⟨18446744073709551615, 999999999⟩

/-- A span repeated `factor` times: what the nanoseconds come to beyond a second is carried, and
seconds that do not fit are refused. -/
def scale? (w : Words) (factor : UInt32) : Option Words :=
  let nanos := w.nanos.toUInt64 * factor.toUInt64
  let carry := nanos / 1000000000
  if w.seconds.toNat * factor.toNat + carry.toNat < 2 ^ 64 then
    some ⟨w.seconds * factor.toUInt64 + carry, (nanos % 1000000000).toUInt32⟩
  else none

/-- Whether one span is not longer than another: seconds count before nanoseconds. -/
def le (v w : Words) : Bool := v.seconds < w.seconds || v.seconds = w.seconds && v.nanos ≤ w.nanos

/-- The shorter of a span and an optional cap. -/
def capped (w : Words) : Option Words → Words
  | none => w
  | some cap => if w.le cap then w else cap

/-- The delay behind a delay. -/
def grow (w : Words) (factor : UInt32) (cap : Option Words) : Words :=
  ((w.scale? factor).getD longest).capped cap

end Words

namespace Span

theorem limit_eq : limit = 2 ^ 64 * 10 ^ 9 - 1 := by decide

theorem seconds_lt (s : Span) : s.seconds < 2 ^ 64 := by
  have h : s.nanos < 2 ^ 64 * 10 ^ 9 := s.nanos_lt
  rw [seconds, nanosPerSecond]
  omega

theorem subsecond_lt (s : Span) : s.subsecond < 10 ^ 9 := Nat.mod_lt _ (by decide)

theorem nanos_eq (s : Span) : s.nanos = s.seconds * 10 ^ 9 + s.subsecond :=
  (Nat.div_add_mod' s.nanos (10 ^ 9)).symm

theorem toNat_words_seconds (s : Span) : s.words.seconds.toNat = s.seconds :=
  UInt64.toNat_ofNat_of_lt' s.seconds_lt

theorem toNat_words_nanos (s : Span) : s.words.nanos.toNat = s.subsecond :=
  UInt32.toNat_ofNat_of_lt' (Nat.lt_trans s.subsecond_lt (by decide))

/-- Spans are compared word by word. -/
theorem le_words (s t : Span) : s.words.le t.words ↔ s.nanos ≤ t.nanos := by
  have hs := s.subsecond_lt
  have ht := t.subsecond_lt
  rw [nanos_eq s, nanos_eq t]
  simp only [Words.le, Bool.or_eq_true, Bool.and_eq_true, decide_eq_true_eq, UInt64.lt_iff_toNat_lt,
    UInt32.le_iff_toNat_le, ← UInt64.toNat_inj, toNat_words_seconds, toNat_words_nanos]
  omega

theorem words_capped (s : Span) (cap : Option Span) :
    (s.capped cap).words = s.words.capped (cap.map words) := by
  cases cap with
  | none => rfl
  | some cap =>
    simp only [capped, Option.map_some, Words.capped, le_words]
    split <;> rfl

/-- The nanoseconds of a span repeated, with a carry. -/
theorem nanos_mul (s : Span) (n : Nat) :
    s.nanos * n = (s.seconds * n + s.subsecond * n / 10 ^ 9) * 10 ^ 9 + s.subsecond * n % 10 ^ 9 := by
  calc s.nanos * n = s.seconds * n * 10 ^ 9 + s.subsecond * n := by
        rw [nanos_eq, Nat.add_mul, Nat.mul_right_comm]
    _ = s.seconds * n * 10 ^ 9 + (s.subsecond * n / 10 ^ 9 * 10 ^ 9 + s.subsecond * n % 10 ^ 9) := by
        rw [Nat.div_add_mod']
    _ = (s.seconds * n + s.subsecond * n / 10 ^ 9) * 10 ^ 9 + s.subsecond * n % 10 ^ 9 := by
        rw [← Nat.add_assoc, ← Nat.add_mul]

/-- The whole seconds of a span repeated, those that are carried over included. -/
def repeatedSeconds (s : Span) (n : Nat) : Nat := s.seconds * n + s.subsecond * n / 10 ^ 9

/-- A span repeated keeps its parts as long as its seconds fit a word. -/
theorem scale_of_lt {s : Span} {n : Nat} (h : s.repeatedSeconds n < 2 ^ 64) :
    (s.scale n).seconds = s.repeatedSeconds n ∧
      (s.scale n).subsecond = s.subsecond * n % 10 ^ 9 := by
  have hrest : s.subsecond * n % 10 ^ 9 < 10 ^ 9 := Nat.mod_lt _ (by decide)
  have hnanos : (s.scale n).nanos = s.repeatedSeconds n * 10 ^ 9 + s.subsecond * n % 10 ^ 9 := by
    rw [scale, nanos_clamp, limit_eq, s.nanos_mul n, ← repeatedSeconds]
    omega
  rw [seconds, subsecond, hnanos, nanosPerSecond]
  omega

/-- Otherwise it is the longest span. -/
theorem scale_of_le {s : Span} {n : Nat} (h : 2 ^ 64 ≤ s.repeatedSeconds n) :
    s.scale n = clamp limit := by
  ext
  rw [scale, nanos_clamp, nanos_clamp, limit_eq, s.nanos_mul n, ← repeatedSeconds]
  omega

/-- The nanoseconds beyond the seconds fit a word also when they are repeated. -/
theorem toNat_words_nanos_mul (s : Span) (factor : UInt32) :
    (s.words.nanos.toUInt64 * factor.toUInt64).toNat = s.subsecond * factor.toNat := by
  have hbound : s.subsecond * factor.toNat < 10 ^ 9 * 2 ^ 32 :=
    Nat.mul_lt_mul'' s.subsecond_lt factor.toNat_lt
  rw [UInt64.toNat_mul, UInt32.toNat_toUInt64, UInt32.toNat_toUInt64, toNat_words_nanos]
  exact Nat.mod_eq_of_lt (Nat.lt_trans hbound (by decide))

/-- Words with a carry repeat a span as nanoseconds do. -/
theorem words_scale (s : Span) (factor : UInt32) :
    (s.scale factor.toNat).words = (s.words.scale? factor).getD Words.longest := by
  have hnanos := s.toNat_words_nanos_mul factor
  have hcarry : (s.words.nanos.toUInt64 * factor.toUInt64 / 1000000000).toNat =
      s.subsecond * factor.toNat / 10 ^ 9 := by
    rw [UInt64.toNat_div, hnanos]
    rfl
  have hsum : s.words.seconds.toNat * factor.toNat +
      (s.words.nanos.toUInt64 * factor.toUInt64 / 1000000000).toNat =
      s.repeatedSeconds factor.toNat := by
    rw [hcarry, toNat_words_seconds, repeatedSeconds]
  by_cases hfits : s.repeatedSeconds factor.toNat < 2 ^ 64
  · obtain ⟨hseconds, hsubsecond⟩ := scale_of_lt hfits
    have hwhole : (s.words.seconds * factor.toUInt64 +
        s.words.nanos.toUInt64 * factor.toUInt64 / 1000000000).toNat =
        s.repeatedSeconds factor.toNat := by
      rw [UInt64.toNat_add, UInt64.toNat_mul, UInt32.toNat_toUInt64, Nat.mod_add_mod, hsum]
      exact Nat.mod_eq_of_lt hfits
    have hbeyond : (s.words.nanos.toUInt64 * factor.toUInt64 % 1000000000).toUInt32.toNat =
        s.subsecond * factor.toNat % 10 ^ 9 := by
      rw [UInt64.toNat_toUInt32, UInt64.toNat_mod, hnanos]
      exact Nat.mod_eq_of_lt (Nat.lt_trans (Nat.mod_lt _ (by decide)) (by decide))
    simp only [Words.scale?, hsum, hfits, ite_true, Option.getD_some]
    apply Words.ext
    · exact UInt64.toNat_inj.mp ((toNat_words_seconds _).trans (hseconds.trans hwhole.symm))
    · exact UInt32.toNat_inj.mp ((toNat_words_nanos _).trans (hsubsecond.trans hbeyond.symm))
  · simp only [Words.scale?, hsum, hfits, ite_false, Option.getD_none]
    rw [scale_of_le (Nat.not_lt.mp hfits)]
    decide

end Span

end PacketTunnel
