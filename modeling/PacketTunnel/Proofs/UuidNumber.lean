import Mathlib.Algebra.GroupWithZero.Nat
import PacketTunnel.Uuid

/-!
# Numbered identifiers

A run in which identifiers must differ can take them in order: the number of an identifier stands in
its bytes, the last digit first.
-/

namespace PacketTunnel.Uuid

/-- The identifier with a number. -/
def numbered (n : Nat) : Uuid := ⟨Vector.ofFn fun i => UInt8.ofNat (n / 256 ^ i.val)⟩

/-- Equal identifiers have numbers with equal digits. -/
theorem mod_eq_of_numbered_eq {m n : Nat} (h : numbered m = numbered n) {k : Nat} (hk : k ≤ 16) :
    m % 256 ^ k = n % 256 ^ k := by
  induction k with
  | zero => rw [Nat.pow_zero, Nat.mod_one, Nat.mod_one]
  | succ k ih =>
    have hdigit : m / 256 ^ k % 256 = n / 256 ^ k % 256 := by
      have hlt : k < 16 := hk
      have hbyte := congrArg (fun u : Uuid => u.bytes[k].toNat) h
      simpa only [numbered, Vector.getElem_ofFn, UInt8.toNat_ofNat'] using hbyte
    rw [Nat.mod_pow_succ, Nat.mod_pow_succ, ih (Nat.le_of_succ_le hk), hdigit]

/-- Identifiers of different numbers differ. -/
theorem eq_of_numbered_eq {m n : Nat} (hm : m < 2 ^ 128) (hn : n < 2 ^ 128)
    (h : numbered m = numbered n) : m = n := by
  have hpow : 256 ^ 16 = 2 ^ 128 := rfl
  have hmod := mod_eq_of_numbered_eq h (Nat.le_refl 16)
  rw [hpow, Nat.mod_eq_of_lt hm, Nat.mod_eq_of_lt hn] at hmod
  exact hmod

end PacketTunnel.Uuid
