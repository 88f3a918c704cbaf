import Uptime.Net.Dial
import Uptime.Time.Duration

/-!
# The network

Whether connections come about, and how long it takes. A host without any network answers for
itself: there is no way to addresses of the first family, and no address of its own for the second.
-/

namespace Uptime

/-- The network as the probes meet it. -/
structure Network where
  tcp : Connector
  udp : Connector
  /-- How long dialling takes. -/
  delay : Duration := .zero
  /-- Why a TCP connection cannot be closed again. -/
  closing : Option SystemError := none

/-- Whether an address of the second family stands for one of the first. -/
def Ip.isMapped : Ip → Bool
  | .v4 _ => false
  | .v6 groups => groups.toList.take 6 == [0, 0, 0, 0, 0, 0xffff]

/-- Connecting where there is no network. -/
def Connector.unreachable : Connector := fun e =>
  some (.number (if e.ip.isV6 && !e.ip.isMapped then 99 else 101))

/-- No network at all. -/
def Network.none : Network := { tcp := .unreachable, udp := .unreachable }

end Uptime
