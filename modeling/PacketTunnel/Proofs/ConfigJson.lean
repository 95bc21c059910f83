import PacketTunnel.Config.Json
import PacketTunnel.Proofs.EndpointText
import PacketTunnel.Proofs.JsonValue
import PacketTunnel.Proofs.KeyText

/-!
# Configurations in JSON, read as they were written

A written configuration has every field once, in an order, and an absent part is null. Each part is
taken by its reader for itself, keys and endpoints by way of their texts, and the name of the
interface whatever characters it has; so the fields fill up to the configuration.
-/

namespace PacketTunnel

open Text Json

namespace Json.Reader

variable {α : Type}

/-- A string that stands for a value is taken for it where a refusal has no place, too. -/
theorem takes_stringThen {convert : String → Except Shape.Mismatch α} {s : String} {a : α}
    (h : convert s = .ok a) (rest : List UInt8) :
    Takes (stringThen convert) (Utf8.encode (stringChars s) ++ rest) rest a := by
  refine (takes_string rfl "a string" rest).bind ?_
  rw [h]
  exact takes_pure a rest

/-- The null value is taken for an absent one. -/
theorem takes_optional_null (r : Reader α) (rest : List UInt8) :
    Takes (optional r) (Utf8.encode nullChars ++ rest) rest none := by
  have hnull : Utf8.encode nullChars ++ rest = 0x6e :: (nullLetters ++ rest) := rfl
  have hletters : Takes (step (scanWord nullLetters)) (nullLetters ++ rest) rest () :=
    fun offset => ⟨offset + 3, rfl⟩
  rw [hnull]
  refine (takes_peek rfl _).bind ?_
  refine (takes_advance 0x6e _).bind ?_
  exact hletters.bind (takes_pure none rest)

/-- A written string is not null. -/
theorem takes_optional_string {r : Reader α} {s : String} {rest : List UInt8} {a : α}
    (h : Takes r (Utf8.encode (stringChars s) ++ rest) rest a) :
    Takes (optional r) (Utf8.encode (stringChars s) ++ rest) rest (some a) := by
  rw [encode_stringChars, List.cons_append] at h ⊢
  refine (takes_peek rfl _).bind ?_
  exact h.bind (takes_pure (some a) rest)

/-- A member that was not there before is taken from its colon on. -/
theorem takes_once {r : Reader α} {name : String} {text rest : List UInt8} {a : α}
    (h : Takes r text rest a) : Takes (once none name r) (0x3a :: text) rest (some a) := by
  refine (takes_colon text).bind ?_
  exact h.bind (takes_pure (some a) rest)

end Json.Reader

namespace Config

open FromJson Reader

/-- An optional text is taken for what it stands for, or for an absent value. -/
theorem takes_option {α β : Type} {r : Reader β} (chars : α → String) (value : α → β)
    (h : ∀ a rest, Takes r (Utf8.encode (stringChars (chars a)) ++ rest) rest (value a))
    (a : Option α) (rest : List UInt8) :
    Takes (optional r) (Utf8.encode (optionChars (a.map chars)) ++ rest) rest (a.map value) := by
  cases a with
  | none => exact takes_optional_null r rest
  | some a => exact takes_optional_string (h a rest)

theorem takes_endpoint (a : Option Net.Endpoint) (rest : List UInt8) :
    Takes (optional endpoint) (Utf8.encode (optionChars (a.map Net.Endpoint.text)) ++ rest) rest
      (a.map Net.Endpoint.unlabelled) :=
  takes_option Net.Endpoint.text Net.Endpoint.unlabelled
    (fun x rest => takes_string (endpointOf_text x) endpointExpected rest) a rest

theorem takes_interface (a : Option String) (rest : List UInt8) :
    Takes interfaceName (Utf8.encode (optionChars a) ++ rest) rest a := by
  have h := takes_option (fun s => s) (fun s => s)
    (fun s rest => takes_string rfl "a string" rest) a rest
  rw [Option.map_id'] at h
  exact h

/-- The members of a written peer. -/
def peerFields (p : Peer) : List (String × List Char) :=
  [(publicKeyName, p.publicKey.jsonChars),
    (endpointName, optionChars (p.endpoint.map Net.Endpoint.text))]

/-- The members of a written peer give its key and its endpoint. -/
theorem fills_peer (p : Peer) :
    Fills peerMember (peerFields p) {} ⟨some p.publicKey, some p.unlabelled.endpoint⟩ := by
  have hnames : endpointName ≠ publicKeyName := by decide
  have hkey (rest : List UInt8) : Takes (peerMember publicKeyName {})
      (0x3a :: (Utf8.encode p.publicKey.jsonChars ++ rest)) rest ⟨some p.publicKey, none⟩ := by
    rw [peerMember, if_pos rfl]
    have htext := takes_stringThen p.publicKey.ofText_base64 rest
    exact (takes_once htext).bind (takes_pure _ rest)
  have hendpoint (rest : List UInt8) : Takes (peerMember endpointName ⟨some p.publicKey, none⟩)
      (0x3a :: (Utf8.encode (optionChars (p.endpoint.map Net.Endpoint.text)) ++ rest)) rest
      ⟨some p.publicKey, some p.unlabelled.endpoint⟩ := by
    rw [peerMember, if_neg hnames, if_pos rfl]
    exact (takes_once (takes_endpoint p.endpoint rest)).bind (takes_pure _ rest)
  exact .cons hkey (.cons hendpoint (.nil _))

/-- A written peer is taken for itself. -/
theorem takes_peer (p : Peer) (rest : List UInt8) :
    Takes FromJson.peer (Utf8.encode (objectChars (peerFields p)) ++ rest) rest p.unlabelled :=
  takes_record (fills_peer p) (takes_pure p.unlabelled) rest

/-- The members of a written configuration give its parts. -/
theorem fills_config (c : Config) :
    Fills member [(privateKeyName, c.privateKey.jsonChars),
      (peerName, objectChars (peerFields c.peer)),
      (requiredInterfaceName, optionChars c.requiredInterface)] {}
      ⟨some c.privateKey, some c.peer.unlabelled, some c.requiredInterface⟩ := by
  have hpeerName : peerName ≠ privateKeyName := by decide
  have hinterfaceName : requiredInterfaceName ≠ privateKeyName ∧
    requiredInterfaceName ≠ peerName := by decide
  have hkey (rest : List UInt8) : Takes (member privateKeyName {})
      (0x3a :: (Utf8.encode c.privateKey.jsonChars ++ rest)) rest
      ⟨some c.privateKey, none, none⟩ := by
    rw [member, if_pos rfl]
    have htext := takes_stringThen c.privateKey.ofText_base64 rest
    exact (takes_once htext).bind (takes_pure _ rest)
  have hpeer (rest : List UInt8) : Takes (member peerName ⟨some c.privateKey, none, none⟩)
      (0x3a :: (Utf8.encode (objectChars (peerFields c.peer)) ++ rest)) rest
      ⟨some c.privateKey, some c.peer.unlabelled, none⟩ := by
    rw [member, if_neg hpeerName, if_pos rfl]
    exact (takes_once (takes_peer c.peer rest)).bind (takes_pure _ rest)
  have hinterface (rest : List UInt8) :
      Takes (member requiredInterfaceName ⟨some c.privateKey, some c.peer.unlabelled, none⟩)
      (0x3a :: (Utf8.encode (optionChars c.requiredInterface) ++ rest)) rest
      ⟨some c.privateKey, some c.peer.unlabelled, some c.requiredInterface⟩ := by
    rw [member, if_neg hinterfaceName.1, if_neg hinterfaceName.2, if_pos rfl]
    exact (takes_once (takes_interface c.requiredInterface rest)).bind (takes_pure _ rest)
  exact .cons hkey (.cons hpeer (.cons hinterface (.nil _)))

/-- Whatever its parts are, a configuration that is written in JSON is read as itself, but for a
flow label, which is not written. -/
theorem ofJson_json (c : Config) : ofJson c.json = .ok c.unlabelled ∧
    (c.unlabelled = c ↔ ∀ x ∈ c.peer.endpoint, x.flow = 0) := by
  refine ⟨?_, unlabelled_eq_self⟩
  have htakes : Takes config (Utf8.encode c.jsonChars ++ []) [] c.unlabelled :=
    takes_record (fills_config c) (takes_pure c.unlabelled) []
  rw [List.append_nil] at htakes
  rw [ofJson, ofJsonBytes, json, Utf8.ofString, String.toList_ofList]
  exact run_of_takes htakes

end Config

end PacketTunnel
