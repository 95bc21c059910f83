import PacketTunnel.Session.Table

/-!
# A scripted network

Session handles that do as they are told: a write ends at once with a given result, or is held until
it is finished by hand. Handles are numbered from zero in the order in which they were set up, held
writes in the order in which they were made.
-/

namespace PacketTunnel.Scripted

open Session

/-- What becomes of a write. -/
inductive WriteMode where
  /-- It ends at once. -/
  | finish (result : WriteResult)
  /-- It is held. -/
  | hold

/-- The network. `κ` names the completions of writes. -/
structure Network (κ : Type) where
  /-- What becomes of the next write. -/
  mode : WriteMode
  /-- The held writes, those not yet finished with their completion. -/
  held : List (Option κ)
  /-- The session and generation of every handle. -/
  handles : List (Nat × Nat)

namespace Network

variable {κ : Type}

/-- A network without handles on which writes succeed. -/
def fresh : Network κ := ⟨.finish (.ok ()), [], []⟩

/-- Do something with a handle: the completions that are called at once. -/
def perform (n : Network κ) : Effect κ → Network κ × List (κ × WriteResult)
  | .create session generation _ _ | .upgrade session generation _ _ =>
    ({ n with handles := n.handles ++ [(session, generation)] }, [])
  | .cancel _ => (n, [])
  | .write _ _ completion =>
    match n.mode with
    | .finish result => (n, [(completion, result)])
    | .hold => ({ n with held := n.held ++ [some completion] }, [])

/-- Finish a held write: its completion, unless there is no such write any more. -/
def finish? (n : Network κ) (write : Nat) : Option (κ × Network κ) :=
  match n.held[write]? with
  | some (some completion) => some (completion, { n with held := n.held.set write none })
  | _ => none

/-- What a handle reports. -/
def report? (n : Network κ) (handle : Nat) (event : Event) : Option Notification :=
  n.handles[handle]?.map fun (session, generation) => ⟨session, generation, event⟩

end Network

end PacketTunnel.Scripted
