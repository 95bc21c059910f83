import PacketTunnel.Json.Fault
import PacketTunnel.SystemError

/-!
# Errors between the two processes

The ways in which sending a command, pushing an event or posting work fails.
-/

namespace PacketTunnel.Ipc

/-- Why an operation failed. -/
inductive Error where
  /-- The other process is gone. -/
  | gone
  /-- No reply slot is left. -/
  | bufferUnderflow
  /-- A message is no command. -/
  | codec (cause : Json.Error)
  /-- The transport did not take the message. -/
  | transport (reason : String)
  /-- The worker takes no more jobs, or gave the job up. -/
  | queueClosed
  /-- No worker could be started. -/
  | spawn (cause : Failure)
  deriving DecidableEq, Repr

/-- The text of an error. -/
def Error.message : Error → String
  | gone => "IPC peer is gone"
  | bufferUnderflow => "No buffered command left to reply to"
  | codec cause => s!"Codec error: {cause.message}"
  | transport reason => s!"Transport error: {reason}"
  | queueClosed => "Worker queue is shut down"
  | spawn cause => s!"Failed to spawn worker thread: {cause.message}"

end PacketTunnel.Ipc
