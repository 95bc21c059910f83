import Mathlib.Logic.Function.Basic
import PacketTunnel.Proofs.ReplyExtent
import PacketTunnel.Route.Resolver

/-!
# Which answers are for others

Several resolvers are used side by side, each by anybody; calls that are made at the same time come
one after the other. What a resolver gives to those who ask it is a matter of how many asked it
before: its numbers go round from 1 to the largest one, whatever happens to the other resolvers. So
two of its questions have the same number only if they are at least a round apart, and an answer to
any other question in between is taken for what it is: the number is looked at before all else that
the answer says.
-/

namespace PacketTunnel.Route

namespace Resolver

/-- What a resolver is asked. -/
inductive Call where
  /-- For the next number. -/
  | next
  /-- For the route to a destination. -/
  | resolve (asked : Net.Address)

/-- The resolver behind a call. The number that the call took is the one used last. -/
def after (r : Resolver) : Call → Resolver
  | .next => r.next.2
  | .resolve asked => (r.resolve asked).2

/-- Each call takes the next number. -/
theorem after_eq (r : Resolver) (call : Call) : r.after call = r.next.2 := by
  cases call <;> rfl

theorem maxSequence_eq : maxSequence = 2147483647 := rfl

/-- One more number is taken behind the others. -/
theorem skip_succ (r : Resolver) (count : Nat) : r.skip (count + 1) = (r.skip count).next.2 := by
  induction count generalizing r with
  | zero => rfl
  | succ count ih => exact ih r.next.2

/-- The numbers go round. -/
theorem last_skip (count : Nat) : (fresh.skip (count + 1)).last = count % maxSequence + 1 := by
  induction count with
  | zero => rfl
  | succ count ih =>
    rw [skip_succ]
    simp only [next, ih]
    rw [maxSequence_eq]
    split_ifs with h
    · omega
    · omega

/-- The first numbers that a resolver gives. -/
def numbering (count : Nat) : List Nat := (List.range count).map fun i => i % maxSequence + 1

theorem numbering_succ (count : Nat) :
    numbering (count + 1) = numbering count ++ [(fresh.skip (count + 1)).last] := by
  rw [numbering, List.range_succ, List.map_append, last_skip]
  rfl

variable {ι : Type} [DecidableEq ι]

/-- Resolvers in use, and what was taken from them. -/
structure InUse (ι : Type) where
  /-- The resolvers. -/
  resolvers : ι → Resolver
  /-- The numbers that were taken, in order, each with the resolver that gave it. -/
  taken : List (ι × Nat)

namespace InUse

/-- Resolvers that nobody asked yet. -/
def start : InUse ι := ⟨fun _ => fresh, []⟩

/-- Call one of the resolvers. -/
def call (u : InUse ι) (k : ι) (c : Call) : InUse ι :=
  let r := (u.resolvers k).after c
  ⟨Function.update u.resolvers k r, u.taken ++ [(k, r.last)]⟩

/-- Calls one after the other. -/
def run (u : InUse ι) (calls : List (ι × Call)) : InUse ι :=
  calls.foldl (fun u c => u.call c.1 c.2) u

/-- The numbers that were taken from a resolver, in order. -/
def numbers (u : InUse ι) (k : ι) : List Nat :=
  (u.taken.filter fun x => x.1 = k).map Prod.snd

/-- The called resolver gives its next number. -/
theorem numbers_call_self (u : InUse ι) (k : ι) (c : Call) :
    (u.call k c).numbers k = u.numbers k ++ [((u.resolvers k).after c).last] := by
  simp [numbers, call]

/-- The others give none. -/
theorem numbers_call_of_ne (u : InUse ι) {k other : ι} (h : other ≠ k) (c : Call) :
    (u.call other c).numbers k = u.numbers k := by
  simp [numbers, call, h]

/-- A resolver has come as far as the calls on it brought it, and gave its first numbers. -/
structure Stands (u : InUse ι) (k : ι) (count : Nat) : Prop where
  /-- How far it has come. -/
  resolver_eq : u.resolvers k = fresh.skip count
  /-- What it gave. -/
  numbers_eq : u.numbers k = numbering count

theorem stands_start (k : ι) : (start : InUse ι).Stands k 0 := ⟨rfl, rfl⟩

/-- A call on it brings a resolver one further, and a call on another one leaves it where it is. -/
theorem Stands.call {u : InUse ι} {k : ι} {count : Nat} (h : u.Stands k count) (other : ι)
    (c : Call) : (u.call other c).Stands k (if other = k then count + 1 else count) := by
  by_cases hk : other = k
  · subst hk
    have hafter : (u.resolvers other).after c = fresh.skip (count + 1) := by
      rw [after_eq, h.resolver_eq, skip_succ]
    rw [if_pos rfl]
    refine ⟨(Function.update_self ..).trans hafter, ?_⟩
    rw [numbers_call_self, h.numbers_eq, hafter, numbering_succ]
  · rw [if_neg hk]
    refine ⟨(Function.update_of_ne (Ne.symm hk) ..).trans h.resolver_eq, ?_⟩
    rw [numbers_call_of_ne u hk, h.numbers_eq]

/-- After any calls a resolver stands where the calls on it brought it. -/
theorem Stands.run {u : InUse ι} {k : ι} {count : Nat} (h : u.Stands k count)
    (calls : List (ι × Call)) :
    (u.run calls).Stands k (count + calls.countP fun c => c.1 = k) := by
  induction calls generalizing u count with
  | nil => exact h
  | cons c calls ih =>
    have hrest := ih (h.call c.1 c.2)
    by_cases hk : c.1 = k
    · rw [if_pos hk] at hrest
      rw [List.countP_cons_of_pos (by simpa using hk), Nat.add_comm _ 1, ← Nat.add_assoc]
      exact hrest
    · rw [if_neg hk] at hrest
      rw [List.countP_cons_of_neg (by simpa using hk)]
      exact hrest

/-- Two resolvers are asked in turns. -/
example : ((start : InUse Bool).run
    [(true, .next), (false, .next), (true, .resolve (.v4 ⟨1, 1, 1, 1⟩)), (false, .next),
      (true, .next)]).taken
      = [(true, 1), (false, 1), (true, 2), (false, 2), (true, 3)] := by
  decide

end InUse

end Resolver

end PacketTunnel.Route
