import PacketTunnel.Text.Numeral

/-!
# Numerals, read as they were written

A written number has only digits of its radix, does not begin with a zero unless it is one, and has
the value that it was written for. A reader whose limits the number keeps to takes it whole,
wherever something else than a digit follows.
-/

namespace PacketTunnel.Text

/-- A text goes on with another character than those of a kind, or not at all. -/
def Stops (p : Char → Bool) (text : List Char) : Prop := ∀ c ∈ text.head?, p c = false

section

variable {p : Char → Bool} {front rest : List Char}

theorem stops_nil (p : Char → Bool) : Stops p [] := fun c hc => (by cases hc)

theorem stops_cons {c : Char} (h : p c = false) (rest : List Char) : Stops p (c :: rest) := by
  intro d hd
  obtain rfl := Option.some.inj hd
  exact h

theorem takeWhile_of_stops (h : Stops p rest) : rest.takeWhile p = [] := by
  cases rest with
  | nil => rfl
  | cons c rest => rw [List.takeWhile_cons, h c rfl, if_neg Bool.false_ne_true]

theorem dropWhile_of_stops (h : Stops p rest) : rest.dropWhile p = rest := by
  cases rest with
  | nil => rfl
  | cons c rest => rw [List.dropWhile_cons, h c rfl, if_neg Bool.false_ne_true]

theorem takeWhile_append_of_stops (hfront : ∀ c ∈ front, p c = true) (h : Stops p rest) :
    (front ++ rest).takeWhile p = front := by
  rw [List.takeWhile_append_of_pos hfront, takeWhile_of_stops h, List.append_nil]

theorem dropWhile_append_of_stops (hfront : ∀ c ∈ front, p c = true) (h : Stops p rest) :
    (front ++ rest).dropWhile p = rest := by
  rw [List.dropWhile_append_of_pos hfront, dropWhile_of_stops h]

end

namespace Numeral

/-- Where no digit comes there is no number. -/
theorem read?_of_stops {l : Limits} {text : List Char} (h : Stops (isDigit l.radix) text) :
    read? l text = none := by
  rw [read?, takeWhile_of_stops h]
  rfl

/-- A digit below a radix is one below a larger radix. -/
theorem isDigit_mono {small large : Nat} (hle : small ≤ large) {c : Char}
    (h : isDigit small c = true) : isDigit large c = true := by
  simp only [isDigit, digit?, Option.isSome_ite] at h ⊢
  exact Nat.lt_of_lt_of_le h hle

/-- What ends the digits of a radix ends those of a smaller one. -/
theorem stops_mono {small large : Nat} (hle : small ≤ large) {text : List Char}
    (h : Stops (isDigit large) text) : Stops (isDigit small) text := by
  intro c hc
  rw [← Bool.not_eq_true]
  exact fun hdigit => Bool.eq_false_iff.mp (h c hc) (isDigit_mono hle hdigit)

theorem digit?_digitChar :
    ∀ radix ≤ 16, ∀ k < radix, digit? radix (Nat.digitChar k) = some k := by
  decide

theorem digitChar_ne_zero : ∀ k < 16, k ≠ 0 → Nat.digitChar k ≠ '0' := by
  decide

theorem value_concat (radix : Nat) (digits : List Char) (c : Char) :
    value radix (digits ++ [c]) = value radix digits * radix + (digit? radix c).getD 0 := by
  rw [value, List.foldl_append]
  rfl

section

variable {radix : Nat} (hlow : 1 < radix) (hhigh : radix ≤ 16)

include hlow hhigh

theorem value_toDigits (n : Nat) : value radix (Nat.toDigits radix n) = n := by
  induction n using Nat.strongRecOn with
  | ind n ih =>
    rcases Nat.lt_or_ge n radix with hlt | hge
    · have hdigit : value radix [Nat.digitChar n] = n := by
        rw [value, List.foldl_cons, List.foldl_nil, digit?_digitChar radix hhigh n hlt,
          Nat.zero_mul, Nat.zero_add, Option.getD_some]
      rw [Nat.toDigits_of_lt_base hlt, hdigit]
    · have hmod : n % radix < radix := Nat.mod_lt n (by omega)
      have hdiv : n / radix < n := Nat.div_lt_self (by omega) hlow
      rw [Nat.toDigits_of_base_le hlow hge, value_concat, ih _ hdiv,
        digit?_digitChar radix hhigh _ hmod, Option.getD_some, Nat.div_add_mod']

theorem isDigit_of_mem_toDigits {n : Nat} {c : Char} (hc : c ∈ Nat.toDigits radix n) :
    isDigit radix c = true := by
  have hdigit {k : Nat} (hk : k < radix) : isDigit radix (Nat.digitChar k) = true := by
    rw [isDigit, digit?_digitChar radix hhigh k hk]
    rfl
  induction n using Nat.strongRecOn with
  | ind n ih =>
    rcases Nat.lt_or_ge n radix with hlt | hge
    · rw [Nat.toDigits_of_lt_base hlt] at hc
      obtain rfl := List.mem_singleton.mp hc
      exact hdigit hlt
    · rw [Nat.toDigits_of_base_le hlow hge] at hc
      rcases List.mem_append.mp hc with hc | hc
      · exact ih _ (Nat.div_lt_self (by omega) hlow) hc
      · obtain rfl := List.mem_singleton.mp hc
        exact hdigit (Nat.mod_lt n (by omega))

/-- Only zero begins with a zero. -/
theorem head?_toDigits {n : Nat} (hn : n ≠ 0) : (Nat.toDigits radix n).head? ≠ some '0' := by
  induction n using Nat.strongRecOn with
  | ind n ih =>
    rcases Nat.lt_or_ge n radix with hlt | hge
    · rw [Nat.toDigits_of_lt_base hlt]
      exact fun hzero => digitChar_ne_zero n (by omega) hn (Option.some.inj hzero)
    · have hdiv : n / radix ≠ 0 := Nat.ne_of_gt (Nat.div_pos hge (by omega))
      rw [Nat.toDigits_of_base_le hlow hge, List.head?_append,
        Option.or_of_isSome (List.isSome_head?.mpr Nat.toDigits_ne_nil)]
      exact ih _ (Nat.div_lt_self (by omega) hlow) hdiv

end

/-- A number keeps to the limits that it is read under. -/
structure Limits.Keeps (l : Limits) (n : Nat) : Prop where
  /-- There are at least two digits. -/
  low : 1 < l.radix
  /-- There are at most sixteen. -/
  high : l.radix ≤ 16
  /-- There is room for the digits of the number. -/
  short : ∀ most ∈ l.maxDigits, 0 < most ∧ n < Nat.pow l.radix most
  /-- The number is not too large. -/
  small : n < l.bound

theorem Limits.Keeps.admits {l : Limits} {n : Nat} (h : l.Keeps n) :
    l.admits (Nat.toDigits l.radix n) = true := by
  have hsome : (Nat.toDigits l.radix n).isEmpty = false := by
    rw [List.isEmpty_eq_false_iff]
    exact Nat.toDigits_ne_nil
  have hshort : (l.maxDigits.all fun most => (Nat.toDigits l.radix n).length ≤ most) = true := by
    cases hmost : l.maxDigits with
    | none => rfl
    | some most =>
      obtain ⟨hpos, hpow⟩ := h.short most hmost
      exact decide_eq_true ((Nat.length_toDigits_le_iff h.low hpos).mpr hpow)
  have hzero : (l.leadingZeros || (Nat.toDigits l.radix n).length ≤ 1 ||
      (Nat.toDigits l.radix n).head? != some '0') = true := by
    by_cases hn : n = 0
    · rw [hn, Nat.toDigits_zero]
      simp
    · rw [bne_iff_ne.mpr (head?_toDigits h.low h.high hn), Bool.or_true]
  rw [Limits.admits, hsome, hshort, hzero, value_toDigits h.low h.high, decide_eq_true h.small]
  rfl

/-- A written number is read off the front of a text. -/
theorem read?_toDigits {l : Limits} {n : Nat} (h : l.Keeps n) {rest : List Char}
    (hrest : Stops (isDigit l.radix) rest) :
    read? l (Nat.toDigits l.radix n ++ rest) = some (n, rest) := by
  have hdigits : ∀ c ∈ Nat.toDigits l.radix n, isDigit l.radix c = true :=
    fun c hc => isDigit_of_mem_toDigits h.low h.high hc
  rw [read?, takeWhile_append_of_stops hdigits hrest, dropWhile_append_of_stops hdigits hrest]
  simp only [h.admits, ite_true, value_toDigits h.low h.high]

end Numeral

end PacketTunnel.Text
