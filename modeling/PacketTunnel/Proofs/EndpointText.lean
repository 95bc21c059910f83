import PacketTunnel.Config.Fields
import PacketTunnel.Proofs.AddressText

/-!
# Endpoints, read as they were written

An address ends in front of the mark behind it: a colon in front of a port, a percent sign in front
of a scope, a bracket where there is none. So the address, the scope and the port of a written
endpoint are read one after the other, and an endpoint in brackets is not taken for another one.
Only the flow label is lost, since it is not written.
-/

namespace PacketTunnel

open Text Numeral

namespace Net.Endpoint

theorem keeps_port (port : UInt16) : portLimits.Keeps port.toNat where
  low := by decide
  high := by decide
  short most hmost := by cases hmost
  small := port.toNat_lt

theorem keeps_scope (scope : UInt32) : scopeLimits.Keeps scope.toNat where
  low := by decide
  high := by decide
  short most hmost := by cases hmost
  small := scope.toNat_lt

theorem readPort?_decimal (port : UInt16) :
    readPort? (':' :: decimal port.toNat) = some (port, []) := by
  have hread : Numeral.read? portLimits (decimal port.toNat ++ []) = some (port.toNat, []) :=
    read?_toDigits (keeps_port port) (stops_nil _)
  rw [List.append_nil] at hread
  rw [readPort?, expectChar?_cons]
  simp only [Option.bind_eq_bind, Option.bind_some, hread, Nat.toUInt16_eq, UInt16.ofNat_toNat]

/-- A scope that is written is read, and without one the scope is zero. -/
theorem readScope_chars (scope : UInt32) (rest : List Char) :
    readScope (scopeChars scope ++ ']' :: rest) = (scope, ']' :: rest) := by
  by_cases hscope : scope = 0
  · have hnone : expectChar? '%' (']' :: rest) = none := expectChar?_eq_none (by simp)
    rw [scopeChars, if_pos hscope, List.nil_append, readScope, hnone, hscope]
    rfl
  · have hread : Numeral.read? scopeLimits (decimal scope.toNat ++ ']' :: rest) =
        some (scope.toNat, ']' :: rest) :=
      read?_toDigits (keeps_scope scope) (stops_cons (by decide) rest)
    rw [scopeChars, if_neg hscope, List.cons_append, readScope, expectChar?_cons, Option.bind_some,
      hread]
    simp only [Nat.toUInt32_eq, UInt32.ofNat_toNat]

/-- The address ends in front of the scope, or of the bracket. -/
theorem ends_scope (scope : UInt32) (rest : List Char) :
    Ipv6.Ends (scopeChars scope ++ ']' :: rest) := by
  rw [scopeChars]
  split
  · exact ⟨Ipv6.apart_cons (by decide) (by decide) rest, by simp⟩
  · exact ⟨Ipv6.apart_cons (by decide) (by decide) _, by simp⟩

/-- A written endpoint is read as itself, without its flow label. -/
theorem parse?_text (x : Endpoint) : parse? x.text = some x.unlabelled := by
  rw [parse?, text, String.toList_ofList]
  cases x with
  | v4 address port =>
    have hcolon : isDigit 10 ':' = false := by decide
    have haddress := address.read?_chars (stops_cons hcolon (decimal port.toNat))
    have hread : readV4? (chars (v4 address port)) = some (v4 address port, []) := by
      rw [chars, readV4?, haddress]
      simp only [Option.bind_eq_bind, Option.bind_some, readPort?_decimal]
    rw [parseChars?, hread]
    rfl
  | v6 address port flow scope =>
    have hchars : chars (v6 address port flow scope) = '[' :: (address.chars ++
        (scopeChars scope ++ ']' :: ':' :: decimal port.toNat)) := by
      simp only [chars, List.append_assoc, List.cons_append]
    have haddress := address.read?_chars (ends_scope scope (':' :: decimal port.toNat))
    have hread : readV6? (chars (v6 address port flow scope)) =
        some (v6 address port 0 scope, []) := by
      rw [hchars, readV6?, expectChar?_cons]
      simp only [Option.bind_eq_bind, Option.bind_some, haddress, readScope_chars, expectChar?_cons,
        readPort?_decimal]
    have hother : readV4? (chars (v6 address port flow scope)) = none := by
      rw [hchars, readV4?, Ipv4.read?_eq_none]
      · rfl
      · rw [dropWhile_of_stops (stops_cons (by decide) _)]
        simp
    have helse (read? : Unit → Option (Endpoint × List Char)) :
        Option.orElse none read? = read? () := rfl
    rw [parseChars?, hother, helse, hread]
    rfl

theorem unlabelled_eq_self {x : Endpoint} : x.unlabelled = x ↔ x.flow = 0 := by
  cases x with
  | v4 address port => exact ⟨fun _ => rfl, fun _ => rfl⟩
  | v6 address port flow scope =>
    constructor
    · intro h
      injection h with _ _ hflow
      exact hflow.symm
    · rintro rfl
      rfl

end Net.Endpoint

/-- A peer whose endpoint has no flow label. -/
def Peer.unlabelled (p : Peer) : Peer :=
  { p with endpoint := p.endpoint.map Net.Endpoint.unlabelled }

namespace Config

/-- A configuration whose endpoint has no flow label. -/
def unlabelled (c : Config) : Config := { c with peer := c.peer.unlabelled }

/-- Without a flow label nothing is left out. -/
theorem unlabelled_eq_self {c : Config} :
    c.unlabelled = c ↔ ∀ x ∈ c.peer.endpoint, x.flow = 0 := by
  obtain ⟨key, ⟨peerKey, endpoint⟩, interface⟩ := c
  cases endpoint with
  | none => simp [unlabelled, Peer.unlabelled]
  | some x => simp [unlabelled, Peer.unlabelled, Net.Endpoint.unlabelled_eq_self]

theorem endpointOf_text (x : Net.Endpoint) : endpointOf x.text = .ok x.unlabelled := by
  unfold endpointOf
  rw [Net.Endpoint.parse?_text]

end Config

end PacketTunnel
