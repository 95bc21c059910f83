import PacketTunnel.Proofs.IpcCodec
import PacketTunnel.Proofs.JsonRefusal

/-!
# Commands go one way

What was written as an action is no reply, and what was written as a reply is no action: the name
of the alternative is unknown on the other side, and the error says which names are known there.
Together with the round trip this fixes what a message does that reaches a server.
-/

namespace PacketTunnel.Ipc

open Text Json Shape

/-- A written command is refused where its action is none of the known alternatives. -/
theorem Form.decode_of_refuses {α β : Type} {form : Form α} {other : Form β} {c : Command β}
    {m : Mismatch} (h : ∀ rest, Reader.Refuses form.variants.read
      (Utf8.encode (other.chars c.action) ++ rest) m) :
    ∃ position, form.decode (other.encode c) = .error (.codec ⟨.shape m, position⟩) := by
  have hnames : actionName ≠ idName := by decide
  have hid (rest : List UInt8) : Reader.Takes (form.member idName {})
      (0x3a :: (Utf8.encode (stringChars c.id.text) ++ rest)) rest ⟨some c.id, none⟩ := by
    rw [member, if_pos rfl]
    refine Reader.Takes.bind ?_ (Reader.takes_pure _ rest)
    refine (Reader.takes_colon _).bind ?_
    exact (takes_id c.id rest).bind (Reader.takes_pure _ rest)
  have haction (rest : List UInt8) : Reader.Refuses (form.member actionName ⟨some c.id, none⟩)
      (0x3a :: (Utf8.encode (other.chars c.action) ++ rest)) m := by
    rw [member, if_neg hnames, if_pos rfl]
    refine Reader.Refuses.bind ?_ _
    refine (Reader.takes_colon _).refuses ?_
    exact (h rest).bind _
  have hrefuses : Reader.Refuses form.command (other.encode c ++ []) m :=
    Reader.refuses_record (.later hid (.here haction)) []
  rw [List.append_nil] at hrefuses
  obtain ⟨position, hrun⟩ := Reader.run_of_refuses hrefuses
  exact ⟨position, by rw [decode, hrun]; rfl⟩

/-- The names of actions, as an error lists them. -/
def Action.names : List String := [start.name, fillBuffer.name]

/-- The names of replies, as an error lists them. -/
def Reply.names : List String := [serverStarted.name, needBuffer.name, (reconnected "").name]

/-- No reply is called like an action. -/
theorem Reply.name_not_mem (r : Reply) : r.name ∉ Action.form.variants.map (·.1) := by
  cases r <;> simp [Action.form, Action.name, Reply.name]

/-- No action is called like a reply. -/
theorem Action.name_not_mem (a : Action) : a.name ∉ Reply.form.variants.map (·.1) := by
  cases a <;> simp [Reply.form, Action.name, Reply.name]

/-- A written reply is no action. -/
theorem Action.decode_reply (c : Command Reply) :
    ∃ position, Action.form.decode (Reply.form.encode c) =
      .error (.codec ⟨.shape (.unknownVariant c.action.name Action.names), position⟩) := by
  have hname := c.action.name_not_mem
  apply Form.decode_of_refuses
  intro rest
  cases haction : c.action with
  | serverStarted => exact Variants.refuses_alone (haction ▸ hname) rest
  | needBuffer => exact Variants.refuses_alone (haction ▸ hname) rest
  | reconnected endpoint =>
    exact Variants.refuses_given (haction ▸ hname) (stringChars endpoint) rest

/-- A written action is no reply. -/
theorem Reply.decode_action (c : Command Action) :
    ∃ position, Reply.form.decode (Action.form.encode c) =
      .error (.codec ⟨.shape (.unknownVariant c.action.name Reply.names), position⟩) :=
  Form.decode_of_refuses fun rest => Variants.refuses_alone c.action.name_not_mem rest

/-- Through a connected transport a written command acts as the command: the server has it, or it
is refused with what the server says. -/
theorem deliver_encode {η ω : Type} (s : Server η ω) (c : Command Action) (handler : η) :
    deliver true s (Action.form.encode c) handler =
      match s.handle c handler with
      | .ok s => .delivered s
      | .error cause => .refused cause := by
  rewrite [deliver, if_pos rfl, Server.handleMessage_encode]
  cases s.handle c handler with
  | ok s => rfl
  | error cause => rfl

/-- Every written command reads as itself and never as one of the other direction, whatever its
identifier and whatever text it carries; so a message that hands a written command to a server does
what the command would do. -/
theorem codec_faithful {η ω : Type} :
    (∀ c : Command Action, Action.form.decode (Action.form.encode c) = .ok c ∧
      ∃ position, Reply.form.decode (Action.form.encode c) =
        .error (.codec ⟨.shape (.unknownVariant c.action.name Reply.names), position⟩)) ∧
    (∀ c : Command Reply, Reply.form.decode (Reply.form.encode c) = .ok c ∧
      ∃ position, Action.form.decode (Reply.form.encode c) =
        .error (.codec ⟨.shape (.unknownVariant c.action.name Action.names), position⟩)) ∧
    ∀ (s : Server η ω) (c : Command Action) (handler : η),
      s.handleMessage (Action.form.encode c) handler = s.handle c handler ∧
      deliver true s (Action.form.encode c) handler =
        match s.handle c handler with
        | .ok s => .delivered s
        | .error cause => .refused cause := by
  refine ⟨fun c => ⟨?_, Reply.decode_action c⟩, fun c => ⟨?_, Action.decode_reply c⟩,
    fun s c handler => ⟨s.handleMessage_encode c handler, deliver_encode s c handler⟩⟩
  · exact Form.decode_encode Action.form_faithful c
  · exact Form.decode_encode Reply.form_faithful c

end PacketTunnel.Ipc
