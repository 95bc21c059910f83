import PacketTunnel.SystemError

/-!
# Why a route is not found

The ways in which a question to the routing table fails.
-/

namespace PacketTunnel.Route

/-- Why a route is not found. -/
inductive Error where
  /-- The routing socket could not be opened. -/
  | openSocket (cause : Failure)
  /-- The question could not be written. -/
  | write (cause : Failure)
  /-- No answer could be read. -/
  | read (cause : Failure)
  /-- A length field of the answer does not fit. -/
  | invalidMessageLength
  /-- The answer has another format version. -/
  | invalidVersion
  /-- The answer carries an error code. -/
  | messageWithError (code : Int)
  /-- The answer has no addresses. -/
  | noAddresses
  /-- The destination in the answer is no address. -/
  | parseDestination
  /-- The gateway in the answer is no address. -/
  | parseGateway
  /-- The netmask in the answer is none. -/
  | parseNetmask
  /-- The platform has no routing socket. -/
  | unsupported
  deriving DecidableEq, Repr

namespace Error

/-- The text of the reason. -/
def message : Error → String
  | openSocket cause => s!"Failed to open routing socket: {cause.message}"
  | write cause => s!"Failed to write into routing socket: {cause.message}"
  | read cause => s!"Failed to read from routing socket: {cause.message}"
  | invalidMessageLength => "Invalid message length"
  | invalidVersion => "Invalid message version"
  | messageWithError code => s!"Reply contains errno: {code}"
  | noAddresses => "No addresses returned with reply"
  | parseDestination => "Cannot parse destination IP"
  | parseGateway => "Cannot parse gateway IP"
  | parseNetmask => "Cannot parse netmask"
  | unsupported => "Routing socket queries are not supported on this platform"

/-- The system's error code behind the reason, if there is one. -/
def systemCode? : Error → Option Int
  | openSocket cause => cause.code?
  | write cause => cause.code?
  | read cause => cause.code?
  | messageWithError code => some code
  | _ => none

end Error

end PacketTunnel.Route
