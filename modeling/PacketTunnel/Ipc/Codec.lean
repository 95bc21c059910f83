import PacketTunnel.Ipc.Command
import PacketTunnel.Ipc.Error
import PacketTunnel.Json.Variant
import PacketTunnel.Json.Writer

/-!
# Commands in JSON

A command is an object of identifier and action. Actions and replies have different names, so
neither reads as the other.
-/

namespace PacketTunnel.Ipc

open Text Shape Json

/-- The name of the identifier's field. -/
def idName : String := "id"

/-- The name of the action's field. -/
def actionName : String := "action"

/-- What a command is called where another value was found. -/
def commandExpected : String := "struct IpcCommand"

/-- What a command is called where a list is too short. -/
def commandListExpected : String := s!"{commandExpected} with 2 elements"

/-- A kind of contents that commands carry, with its written form. -/
structure Form (α : Type) where
  /-- The alternatives by name. -/
  variants : Variants α
  /-- The written form of a value. -/
  chars : α → List Char

namespace Action

/-- The name of an action. -/
def name : Action → String
  | start => "start"
  | fillBuffer => "fill_buffer"

/-- The form of actions. -/
def form : Form Action where
  variants := [start, fillBuffer].map fun a => (a.name, .nothing a)
  chars a := stringChars a.name

end Action

namespace Reply

/-- The name of a reply. -/
def name : Reply → String
  | serverStarted => "server_started"
  | needBuffer => "need_buffer"
  | reconnected _ => "reconnected"

/-- The written form of a reply. -/
def chars : Reply → List Char
  | reconnected endpoint =>
    objectChars [((reconnected endpoint).name, stringChars endpoint)]
  | r => stringChars r.name

/-- The form of replies. -/
def form : Form Reply where
  variants := [
    (serverStarted.name, .nothing serverStarted),
    (needBuffer.name, .nothing needBuffer),
    ((reconnected "").name, .text reconnected)]
  chars := chars

end Reply

namespace Form

variable {α : Type}

/-- An identifier, or the mismatch of a text that is none. -/
def idOf (text : String) : Except Mismatch Uuid :=
  (Uuid.parse text.toList).mapError fun e => .refused s!"UUID parsing failed: {e.message}"

/-- Reads an identifier. -/
def id : Reader Uuid := Reader.string "a formatted UUID string" idOf

/-- The fields of a command seen so far. -/
structure Fields (α : Type) where
  /-- The identifier. -/
  id : Option Uuid := none
  /-- The action. -/
  action : Option α := none

/-- The command of the fields seen. -/
def Fields.finish (f : Fields α) : Except Mismatch (Command α) :=
  match f.id, f.action with
  | none, _ => .error (.missingField idName)
  | _, none => .error (.missingField actionName)
  | some id, some action => .ok ⟨id, action⟩

/-- A member of a command. -/
def member (form : Form α) (name : String) (f : Fields α) : Reader (Fields α) :=
  if name = idName then do
    let id ← Reader.once f.id name id
    return { f with id := id }
  else if name = actionName then do
    let action ← Reader.once f.action name form.variants.read
    return { f with action := action }
  else do
    Reader.colon
    Reader.skipValue
    return f

/-- The parts of a command in order. -/
def list (form : Form α) : Reader (Command α) := do
  match ← Reader.element? true id with
  | none => Reader.failShape (.invalidLength 0 commandListExpected)
  | some id => do
    match ← Reader.element? false form.variants.read with
    | none => Reader.failShape (.invalidLength 1 commandListExpected)
    | some action => return ⟨id, action⟩

/-- Reads a command. -/
def command (form : Form α) : Reader (Command α) :=
  Reader.record commandExpected form.list do
    Reader.ofShape (← Reader.object form.member {}).finish

/-- The command that a message stands for. -/
def decode (form : Form α) (message : List UInt8) : Except Error (Command α) :=
  (form.command.run message).mapError .codec

/-- The written form of a command, as a list of characters. -/
def commandChars (form : Form α) (c : Command α) : List Char :=
  objectChars [(idName, stringChars c.id.text), (actionName, form.chars c.action)]

/-- The written form of a command, as a string. -/
def text (form : Form α) (c : Command α) : String := String.ofList (form.commandChars c)

/-- The message of a command. -/
def encode (form : Form α) (c : Command α) : List UInt8 := Utf8.encode (form.commandChars c)

end Form

end PacketTunnel.Ipc
