import PacketTunnel.Config

/-!
# Errors of a bridge

The ways in which starting a tunnel, or asking about it, fails.
-/

namespace PacketTunnel.Bridge

/-- Why an operation of a bridge failed. -/
inductive Error where
  /-- The configuration cannot start an engine. -/
  | config (cause : ConfigError)
  /-- The engine could not be set up. -/
  | engine
  /-- The bridge is gone. -/
  | closed
  deriving DecidableEq, Repr

/-- The text of an error. -/
def Error.message : Error → String
  | config cause => s!"Configuration error: {cause.message}"
  | engine => "Engine error: Tunnel engine failed to initialize"
  | closed => "Bridge task is not running"

end PacketTunnel.Bridge
