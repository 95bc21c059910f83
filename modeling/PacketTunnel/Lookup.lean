import PacketTunnel.Log.Filter
import PacketTunnel.Route.Resolver

/-!
# Looking up routes from the command line

The arguments are addresses. All of them must be well formed before the first is looked up. Every
route found is printed on a line of its own; a failed look-up is logged and counted, and the command
fails if there was one.
-/

namespace PacketTunnel.Lookup

open Net Route

/-- Something that the command puts out. -/
inductive Output where
  /-- A line of the log. -/
  | log (line : Log.Line)
  /-- A route. -/
  | route (route : Resolution)
  deriving DecidableEq, Repr

/-- Why the command fails. -/
inductive Failure where
  /-- No address was given. -/
  | usage
  /-- An argument is no address. -/
  | notAnAddress (argument : String)
  /-- Some look-ups failed. -/
  | lookups (count : Nat)
  deriving DecidableEq, Repr

/-- The text of a failure on the error channel. -/
def Failure.text : Failure → String
  | usage => "Error: usage: ptun-route <address>...\n"
  | notAnAddress argument =>
    s!"Error: not an IP address: {argument}\n\nCaused by:\n    {Address.syntaxMessage}\n"
  | lookups count => s!"Error: {count} lookups failed\n"

/-- What a run of the command ends with. -/
structure Report where
  /-- What was put out, in order. -/
  output : List Output
  /-- Why the command failed, if it did. -/
  failure : Option Failure
  deriving DecidableEq, Repr

/-- The exit code. -/
def Report.code (r : Report) : Nat := if r.failure.isSome then 1 else 0

/-- The text on the error channel. -/
def Report.errorText (r : Report) : String := (r.failure.map Failure.text).getD ""

/-- What appears on the output channel if a filter decides about the log. -/
def Report.visible (r : Report) (filter : Log.Filter) : List Output :=
  r.output.filter fun
    | .log line => filter.admits line
    | .route _ => true

/-- The lines on the output channel, those of the log without the time. -/
def Report.lines (r : Report) (filter : Log.Filter) : List String :=
  (r.visible filter).map fun
    | .log line => line.text
    | .route route => route.describe

/-- The target of the command's own log lines. -/
def commandTarget : String := "ptun_route"

/-- The target of the resolver's log lines. -/
def resolverTarget : String := "ptun_core::route"

/-- The addresses of the arguments. -/
def addresses : List String → Except Failure (List Address)
  | [] => .ok []
  | argument :: rest =>
    match Address.parse? argument with
    | none => .error (.notAnAddress argument)
    | some address => (addresses rest).map (address :: ·)

/-- A line that the resolver logs about a result. -/
def resolverLine (address : Address) : Except Error Resolution → Log.Line
  | .ok r =>
    let gateway := match r.gateway with
      | none => "None"
      | some gateway => s!"Some({gateway.text})"
    ⟨.debug, resolverTarget, s!"Route to {address.text} goes via {r.interfaceName} "
      ++ s!"(index {r.interfaceIndex.toNat}, gateway {gateway})"⟩
  | .error e => ⟨.warn, resolverTarget, s!"Failed to resolve route to {address.text}: {e.message}"⟩

/-- What is put out about one address. -/
def outputOf (address : Address) (found : Except Error Resolution) : List Output :=
  [.log (resolverLine address found), match found with
    | .ok r => .route r
    | .error e => .log ⟨.error, commandTarget, s!"{address.text}: {e.message}"⟩]

/-- Look up addresses one after the other: what is put out, and how many look-ups failed. -/
def resolveAll (r : Resolver) : List Address → List Output × Nat
  | [] => ([], 0)
  | address :: rest =>
    let (found, r) := r.resolve address
    let (output, failed) := resolveAll r rest
    (outputOf address found ++ output, if found.isOk then failed else failed + 1)

/-- Run the command with its arguments. -/
def run (arguments : List String) : Report :=
  match addresses arguments with
  | .error failure => ⟨[], some failure⟩
  | .ok [] => ⟨[], some .usage⟩
  | .ok found =>
    let (output, failed) := resolveAll .fresh found
    let first := .log ⟨.debug, commandTarget, s!"Resolving {found.length} addresses"⟩
    ⟨first :: output, if failed = 0 then none else some (.lookups failed)⟩

end PacketTunnel.Lookup
