import PacketTunnel.Lookup
import Std.Time

/-!
# Command line

Looks up the route to every address among the arguments and prints it. A variable of the environment
holds the filter of the log, which goes to the output channel as well.
-/

namespace PacketTunnel

open Std.Time

/-- The variable that holds the filter of the log. -/
def filterVariable : String := "RUST_LOG"

/-- The time of day in universal time. -/
def timeStamp : IO String := do
  let now := DateTime.ofTimestamp (← Timestamp.now) TimeZone.ZoneRules.UTC
  return now.format "uuuu-MM-dd'T'HH:mm:ss.SSSSSS'Z'"

/-- Print one thing that the command puts out. -/
def printOutput : Lookup.Output → IO Unit
  | .log line => do IO.println (line.stamped (← timeStamp))
  | .route route => IO.println route.describe

end PacketTunnel

/-- Look up the addresses among the arguments. -/
def main (arguments : List String) : IO UInt32 := do
  let report := PacketTunnel.Lookup.run arguments
  let filter := PacketTunnel.Log.Filter.ofText (← IO.getEnv PacketTunnel.filterVariable)
  (report.visible filter).forM PacketTunnel.printOutput
  IO.eprint report.errorText
  return UInt32.ofNat report.code
