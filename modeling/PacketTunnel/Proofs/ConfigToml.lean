import PacketTunnel.Config.Toml
import PacketTunnel.Proofs.EndpointText
import PacketTunnel.Proofs.KeyText
import PacketTunnel.Proofs.TomlDocument

/-!
# Configurations in TOML, read as they were written

A written configuration has the texts at the top in lines of their own, then an empty line, and then
the table of the peer. So it is read as a document with these entries, an absent part being no entry
at all, and each entry is the part that it was written for.
-/

namespace PacketTunnel.Config

open Text Toml FromToml

/-- The entry of a text. -/
def textEntry (name text : String) : String × Node := (name, .scalar (.string text))

/-- The entry of a text that may be absent. -/
def optionalEntry (name : String) (text : Option String) : Entries :=
  (text.map (textEntry name)).toList

/-- The entries of a written peer. -/
def peerEntries (p : Peer) : Entries :=
  textEntry publicKeyName p.publicKey.base64 ::
    optionalEntry endpointName (p.endpoint.map Net.Endpoint.text)

/-- The entries of a written configuration in front of its peer. -/
def topEntries (c : Config) : Entries :=
  textEntry privateKeyName c.privateKey.base64 ::
    optionalEntry requiredInterfaceName c.requiredInterface

/-- The line of a text that may be absent. -/
def optionalLine (name : String) (text : Option String) : List Line :=
  (text.map (.assignment name)).toList

/-- The lines of a written configuration. -/
def lines (c : Config) : List Line :=
  .assignment privateKeyName c.privateKey.base64 ::
    optionalLine requiredInterfaceName c.requiredInterface ++
  .empty :: .header peerName :: .assignment publicKeyName c.peer.publicKey.base64 ::
    optionalLine endpointName (c.peer.endpoint.map Net.Endpoint.text)

theorem tomlChars_eq (c : Config) : c.tomlChars = c.lines.flatMap Line.chars := by
  obtain ⟨key, ⟨peerKey, endpoint⟩, interface⟩ := c
  rcases interface with - | interface
  all_goals rcases endpoint with - | endpoint
  all_goals simp [tomlChars, lines, optionalLine, Line.chars]

theorem isBare_lines (c : Config) : ∀ line ∈ c.lines, line.IsBare := by
  have hkey : Bare privateKeyName := ⟨by decide, by decide⟩
  have hinterface : Bare requiredInterfaceName := ⟨by decide, by decide⟩
  have hpeer : Bare peerName := ⟨by decide, by decide⟩
  have hpeerKey : Bare publicKeyName := ⟨by decide, by decide⟩
  have hendpoint : Bare endpointName := ⟨by decide, by decide⟩
  have hoptional {name : String} (h : Bare name) (text : Option String) :
      ∀ line ∈ optionalLine name text, line.IsBare := by
    intro line hline
    obtain ⟨text, -, rfl⟩ := Option.map_eq_some_iff.mp (Option.mem_toList.mp hline)
    exact h
  intro line hline
  simp only [lines, List.cons_append, List.mem_cons, List.mem_append] at hline
  rcases hline with rfl | hline | rfl | rfl | rfl | hline
  · exact hkey
  · exact hoptional hinterface _ line hline
  · exact trivial
  · exact hpeer
  · exact hpeerKey
  · exact hoptional hendpoint _ line hline

/-- The lines of a written configuration are the assignments of its entries around the header of the
peer. -/
theorem statements_lines (c : Config) : c.lines.filterMap Line.statement? =
    c.topEntries.map assignmentOf ++
      .table ⟨[], peerName⟩ :: (peerEntries c.peer).map assignmentOf := by
  obtain ⟨key, ⟨peerKey, endpoint⟩, interface⟩ := c
  rcases interface with - | interface
  all_goals rcases endpoint with - | endpoint
  all_goals rfl

/-- The document of a written configuration has its entries. -/
theorem read?_toml (c : Config) :
    Toml.read? c.toml =
      some (c.topEntries ++ [(peerName, .table .headed (peerEntries c.peer))]) := by
  have hnames (name text other : String) (optional : Option String) :
      (textEntry name text :: optionalEntry other optional).map Prod.fst = [name] ∨
        (textEntry name text :: optionalEntry other optional).map Prod.fst = [name, other] := by
    cases optional with
    | none => exact .inl rfl
    | some optional => exact .inr rfl
  have htop : (c.topEntries.map Prod.fst).Nodup ∧ peerName ∉ c.topEntries.map Prod.fst := by
    rcases hnames privateKeyName c.privateKey.base64 requiredInterfaceName c.requiredInterface
      with h | h
    · rw [topEntries, h]
      decide
    · rw [topEntries, h]
      decide
  have hinner : ((peerEntries c.peer).map Prod.fst).Nodup := by
    rcases hnames publicKeyName c.peer.publicKey.base64 endpointName
      (c.peer.endpoint.map Net.Endpoint.text) with h | h
    · rw [peerEntries, h]
      decide
    · rw [peerEntries, h]
      decide
  rw [Toml.read?, toml, String.toList_ofList, tomlChars_eq, statements?_lines c.isBare_lines,
    statements_lines]
  exact ofStatements?_table htop.1 htop.2 hinner

theorem peerEntry_publicKey (f : PeerFields) (key : PublicKey) :
    peerEntry f (textEntry publicKeyName key.base64) = .ok { f with publicKey := some key } := by
  rw [textEntry, peerEntry, if_pos rfl, FromToml.publicKey, FromToml.text, key.ofText_base64]
  rfl

theorem peerEntry_endpoint (f : PeerFields) (x : Net.Endpoint) :
    peerEntry f (textEntry endpointName x.text) =
      .ok { f with endpoint := some (some x.unlabelled) } := by
  have hname : endpointName ≠ publicKeyName := by decide
  rw [textEntry, peerEntry, if_neg hname, if_pos rfl, FromToml.endpoint, FromToml.text,
    endpointOf_text]
  rfl

/-- Entries that are fine are gone through one by one. -/
theorem foldlM_cons_ok {α β ε : Type} {f : β → α → Except ε β} {b next : β} {a : α}
    (h : f b a = .ok next) (l : List α) : (a :: l).foldlM f b = l.foldlM f next := by
  rw [List.foldlM_cons, h]
  rfl

/-- The table of a written peer is read as that peer. -/
theorem peer_peerEntries (p : Peer) :
    FromToml.peer (.table .headed (peerEntries p)) = .ok p.unlabelled := by
  obtain ⟨key, endpoint⟩ := p
  have hfold : (peerEntries ⟨key, endpoint⟩).foldlM peerEntry {} =
      .ok ⟨some key, endpoint.map (some ·.unlabelled)⟩ := by
    rw [peerEntries, foldlM_cons_ok (peerEntry_publicKey _ _)]
    cases endpoint with
    | none => rfl
    | some endpoint => exact foldlM_cons_ok (peerEntry_endpoint _ _) []
  rw [FromToml.peer, FromToml.record]
  simp only [hfold]
  cases endpoint with
  | none => rfl
  | some endpoint => rfl

theorem entry_privateKey (f : Fields) (key : PrivateKey) :
    entry f (textEntry privateKeyName key.base64) = .ok { f with privateKey := some key } := by
  rw [textEntry, entry, if_pos rfl, FromToml.privateKey, FromToml.text, key.ofText_base64]
  rfl

theorem entry_requiredInterface (f : Fields) (name : String) :
    entry f (textEntry requiredInterfaceName name) =
      .ok { f with requiredInterface := some (some name) } := by
  have hnames : requiredInterfaceName ≠ privateKeyName ∧ requiredInterfaceName ≠ peerName := by
    decide
  rw [textEntry, entry, if_neg hnames.1, if_neg hnames.2, if_pos rfl, FromToml.interfaceName,
    FromToml.text]
  rfl

theorem entry_peer (f : Fields) (p : Peer) :
    entry f (peerName, Node.table .headed (peerEntries p)) =
      .ok { f with peer := some p.unlabelled } := by
  have hname : peerName ≠ privateKeyName := by decide
  rw [entry, if_neg hname, if_pos rfl, peer_peerEntries]
  rfl

/-- The entries of a written configuration are read as that configuration. -/
theorem config_entries (c : Config) :
    config (c.topEntries ++ [(peerName, .table .headed (peerEntries c.peer))]) =
      .ok c.unlabelled := by
  obtain ⟨key, p, interface⟩ := c
  have hfold : (topEntries ⟨key, p, interface⟩ ++
      [(peerName, Node.table .headed (peerEntries p))]).foldlM entry {} =
      .ok ⟨some key, some p.unlabelled, interface.map some⟩ := by
    rw [topEntries, List.cons_append, foldlM_cons_ok (entry_privateKey _ _)]
    cases interface with
    | none => exact foldlM_cons_ok (entry_peer _ _) []
    | some interface =>
      refine (foldlM_cons_ok (entry_requiredInterface _ _) _).trans ?_
      exact foldlM_cons_ok (entry_peer _ _) []
  rw [config]
  simp only [hfold]
  cases interface with
  | none => rfl
  | some interface => rfl

/-- Whatever its parts are, a configuration that is written in TOML is read as itself, but for a
flow label, which is not written. -/
theorem ofToml_toml (c : Config) : ofToml c.toml = .ok c.unlabelled ∧
    (c.unlabelled = c ↔ ∀ x ∈ c.peer.endpoint, x.flow = 0) := by
  refine ⟨?_, unlabelled_eq_self⟩
  rw [ofToml, read?_toml]
  simp only [config_entries]
  rfl

end PacketTunnel.Config
