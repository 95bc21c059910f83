import PacketTunnel.Ipc.Client
import PacketTunnel.Ipc.Server
import PacketTunnel.Proofs.JsonValue
import PacketTunnel.Proofs.UuidText

/-!
# Messages, read as they were written

A written command reads as itself: its identifier, and its action or reply with whatever text that
carries. So a message that reaches a server acts as the command in it, and a written answer is the
reply in it.
-/

namespace PacketTunnel.Ipc

open Text Json

namespace Form

variable {α : Type}

/-- A form is faithful if its written values are taken for themselves, whatever follows. -/
def Faithful (form : Form α) : Prop :=
  ∀ a rest, Reader.Takes form.variants.read (Utf8.encode (form.chars a) ++ rest) rest a

theorem takes_id (x : Uuid) (rest : List UInt8) :
    Reader.Takes id (Utf8.encode (stringChars x.text) ++ rest) rest x := by
  apply Reader.takes_string
  rw [idOf, Uuid.text, String.toList_ofList, Uuid.parse_chars]
  rfl

/-- The members of a written command give its identifier and its action. -/
theorem fills_member {form : Form α} (hform : form.Faithful) (c : Command α) :
    Reader.Fills form.member
      [(idName, stringChars c.id.text), (actionName, form.chars c.action)] {}
      ⟨some c.id, some c.action⟩ := by
  have hnames : actionName ≠ idName := by decide
  have hid (rest : List UInt8) : Reader.Takes (form.member idName {})
      (0x3a :: (Utf8.encode (stringChars c.id.text) ++ rest)) rest ⟨some c.id, none⟩ := by
    rw [member, if_pos rfl]
    refine Reader.Takes.bind ?_ (Reader.takes_pure _ rest)
    refine (Reader.takes_colon _).bind ?_
    exact (takes_id c.id rest).bind (Reader.takes_pure _ rest)
  have haction (rest : List UInt8) : Reader.Takes (form.member actionName ⟨some c.id, none⟩)
      (0x3a :: (Utf8.encode (form.chars c.action) ++ rest)) rest
      ⟨some c.id, some c.action⟩ := by
    rw [member, if_neg hnames, if_pos rfl]
    refine Reader.Takes.bind ?_ (Reader.takes_pure _ rest)
    refine (Reader.takes_colon _).bind ?_
    exact (hform c.action rest).bind (Reader.takes_pure _ rest)
  exact .cons hid (.cons haction (.nil _))

/-- A written command is read as itself. -/
theorem decode_encode {form : Form α} (hform : form.Faithful) (c : Command α) :
    form.decode (form.encode c) = .ok c := by
  have htakes : Reader.Takes form.command (form.encode c ++ []) [] c :=
    Reader.takes_record (fills_member hform c) (Reader.takes_pure c) []
  rw [List.append_nil] at htakes
  rw [decode, Reader.run_of_takes htakes]
  rfl

end Form

/-- The name of an alternative without contents stands for it. -/
theorem takes_alone {α : Type} {v : Variants α} {name : String} {a : α}
    (h : (v.find? (·.1 = name)).map (·.2) = some (.nothing a)) (rest : List UInt8) :
    Reader.Takes v.read (Utf8.encode (stringChars name) ++ rest) rest a := by
  obtain ⟨⟨found, contents⟩, hfind, hcontents⟩ := Option.map_eq_some_iff.mp h
  have hname : Reader.Takes v.name (Utf8.encode (stringChars name) ++ rest) rest contents := by
    apply Reader.takes_string
    rw [hfind]
  rw [Reader.encode_stringChars, List.cons_append] at hname ⊢
  refine (Reader.takes_peekValue rfl _).bind ?_
  refine hname.bind ?_
  rw [show contents = .nothing a from hcontents]
  exact Reader.takes_pure a rest

/-- An object with the name of an alternative as its key and a text as its value stands for the
alternative with this text. -/
theorem takes_given {α : Type} {v : Variants α} {name : String} {make : String → α}
    (h : (v.find? (·.1 = name)).map (·.2) = some (.text make)) (text : String)
    (rest : List UInt8) :
    Reader.Takes v.read (Utf8.encode (objectChars [(name, stringChars text)]) ++ rest) rest
      (make text) := by
  obtain ⟨⟨found, contents⟩, hfind, hcontents⟩ := Option.map_eq_some_iff.mp h
  have hbytes : Utf8.encode (objectChars [(name, stringChars text)]) ++ rest =
      0x7b :: (Utf8.encode (stringChars name) ++
        0x3a :: (Utf8.encode (stringChars text) ++ 0x7d :: rest)) := by
    rw [objectChars, memberChars, List.cons_append, Utf8.encode_cons, Utf8.encode_append,
      Utf8.encode_append, Utf8.encode_cons]
    simp only [List.append_assoc]
    rfl
  have hname : Reader.Takes v.name (Utf8.encode (stringChars name) ++
      0x3a :: (Utf8.encode (stringChars text) ++ 0x7d :: rest))
      (0x3a :: (Utf8.encode (stringChars text) ++ 0x7d :: rest)) contents := by
    apply Reader.takes_string
    rw [hfind]
  have hkey := Reader.takes_hasKey_first (Reader.stringBytes name ++
    0x3a :: (Utf8.encode (stringChars text) ++ 0x7d :: rest))
  have hgiven : Reader.Takes contents.given
      (Utf8.encode (stringChars text) ++ 0x7d :: rest) (0x7d :: rest) (make text) := by
    rw [show contents = .text make from hcontents]
    refine Reader.Takes.bind (Reader.takes_string rfl "a string" _) ?_
    exact Reader.takes_pure (make text) _
  rw [hbytes]
  refine (Reader.takes_peekValue rfl _).bind ?_
  refine (Reader.takes_advance 0x7b _).bind ?_
  rw [Reader.encode_stringChars, List.cons_append] at hname ⊢
  refine hkey.bind ?_
  refine hname.bind ?_
  refine (Reader.takes_colon _).bind ?_
  refine hgiven.bind ?_
  refine (Reader.takes_peek rfl rest).bind ?_
  refine (Reader.takes_advance 0x7d rest).bind ?_
  exact Reader.takes_pure (make text) rest

theorem Action.form_faithful : Action.form.Faithful := by
  intro a rest
  cases a with
  | start => exact takes_alone rfl rest
  | fillBuffer => exact takes_alone rfl rest

theorem Reply.form_faithful : Reply.form.Faithful := by
  intro r rest
  cases r with
  | serverStarted => exact takes_alone rfl rest
  | needBuffer => exact takes_alone rfl rest
  | reconnected endpoint => exact takes_given rfl endpoint rest

/-- A written reply is the answer with that reply. -/
theorem Answer.ofBytes_encode (c : Command Reply) :
    Answer.ofBytes (some (Reply.form.encode c)) = .reply c.action := by
  rw [Answer.ofBytes, Form.decode_encode Reply.form_faithful]

/-- A written command that reaches the server acts as the command. -/
theorem Server.handleMessage_encode {η ω : Type} (s : Server η ω) (c : Command Action)
    (handler : η) : s.handleMessage (Action.form.encode c) handler = s.handle c handler := by
  rw [Server.handleMessage, Form.decode_encode Action.form_faithful]
  rfl

end PacketTunnel.Ipc
