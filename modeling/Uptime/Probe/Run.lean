import Uptime.Probe.Grpc
import Uptime.Probe.Http
import Uptime.Probe.Icmp
import Uptime.Probe.Socket

/-!
# Probing a target

The kind of a target decides how it is probed. The outside world is what the probes meet: names,
networks, servers and echoes.
-/

namespace Uptime

/-- The outside world of an attempt. -/
structure World where
  now : Instant
  names : Resolver
  /-- How long a lookup takes. -/
  lookupTime : Duration := .zero
  network : Network := .none
  /-- Whether a client for requests can be set up. -/
  hasClient : Bool := true
  web : Http.Web := .unreachable
  /-- What the health service behind a channel answers. -/
  health : Grpc.Call := .late
  echoes : EchoWorld
  /-- How long the whole attempt takes. -/
  takes : Duration := .zero

namespace World

/-- The world of a machine that is cut off: no name is known, nothing can be reached, and there is
no command that sends echoes. -/
def cutOff (now : Instant) : World :=
  { now, names := fun _ => .error .unknownName
    echoes :=
      { sockets := { connect := some (.number 101), arrivals := fun _ => [] }
        command := fun _ => .refused (.number 2), identity := ⟨0, 0⟩ } }

/-- The time that the lookup of a target's host takes, or why it fails. -/
def lookup (w : World) (t : Target) : Except ProbeError Duration :=
  (t.lookup w.names).map fun _ => w.lookupTime

end World

/-- One attempt at a target. -/
def Target.attempt (t : Target) (w : World) : Attempt :=
  match t.kind.probe with
  | .http => t.tryHttp (w.lookup t) w.hasClient w.web
  | .socket transport => t.trySocket transport (w.lookup t) w.names w.network
  | .icmp => t.tryEcho w.names w.echoes w.now
  | .grpc => t.tryGrpc (w.lookup t) w.names w.network w.health

theorem Target.attempt_icmp {t : Target} (icmp : t.kind = .icmp) (w : World) :
    t.attempt w = t.tryEcho w.names w.echoes w.now := by
  rw [attempt, icmp]
  rfl

end Uptime
