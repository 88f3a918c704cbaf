import Uptime.Icmp.Echo
import Uptime.Outcome

/-!
# Attempts

What an attempt at a target leaves: its outcome, the lines that it wrote to the log, and what it did
to the echo sockets.
-/

namespace Uptime

/-- One attempt at a target. -/
structure Attempt where
  outcome : Outcome
  log : List Log.Entry := []
  acts : List Icmp.Act := []
  /-- How echoes can be sent, if this attempt had to find out. -/
  found : Option Icmp.Capability := none
  /-- Whether the attempt broke off. Then it has no outcome, and what asked for it ends with it. -/
  brokenOff : Bool := false

namespace Attempt

/-- An attempt that got nowhere. -/
def stuck (issue : String) (log : List Log.Entry := []) : Attempt :=
  { outcome := ({} : Outcome).failed issue, log }

/-- An attempt that broke off. Its outcome is that of nothing measured. -/
def broken : Attempt := { outcome := ({} : Outcome).failed "", brokenOff := true }

end Attempt

end Uptime
