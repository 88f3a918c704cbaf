import Uptime.Icmp.Echo
import Uptime.Net.Resolver
import Uptime.Probe.Attempt
import Uptime.Probe.Host

/-!
# ICMP attempts

The host is looked up in the family that its text implies, and one echo is sent to its address. Its
round-trip time is the latency; the lookup is not timed.
-/

namespace Uptime

/-- The outside world of the echoes. -/
structure EchoWorld where
  /-- How echoes can be sent, if that is known already. -/
  capability : Option Icmp.Capability := none
  sockets : Icmp.EchoHost
  command : Icmp.CommandHost
  /-- The identity of the next request. -/
  identity : Icmp.Identity

/-- The same attempt after it had to find out how echoes can be sent. -/
def Attempt.finding (means : Icmp.Capability) (acts : List Icmp.Act) (line : Log.Entry)
    (a : Attempt) : Attempt :=
  { a with log := line :: a.log, acts := acts ++ a.acts, found := some means }

namespace Attempt

variable (means : Icmp.Capability) (acts : List Icmp.Act) (line : Log.Entry) (a : Attempt)

@[simp] theorem outcome_finding : (a.finding means acts line).outcome = a.outcome := rfl

@[simp] theorem acts_finding : (a.finding means acts line).acts = acts ++ a.acts := rfl

@[simp] theorem brokenOff_finding : (a.finding means acts line).brokenOff = a.brokenOff := rfl

end Attempt

namespace Target

/-- The outcome of an echo to a host. -/
def echoed (host : String) : Except ProbeError Duration → Outcome
  | .ok time => { latency := some time, response := some "" }
  | .error e =>
    ({} : Outcome).failed ("Issue running ICMP to service " ++ host ++ ", " ++ e.message)

/-- The attempt that an echo to a host makes. -/
def ofEcho (host : String) (a : Icmp.Attempt) : Attempt :=
  match a.result with
  | some result => { outcome := echoed host result, log := a.log, acts := a.acts }
  | none => { Attempt.broken with log := a.log, acts := a.acts }

/-- One attempt at an ICMP target. The first one of all finds out how echoes can be sent. -/
def tryEcho (t : Target) (r : Resolver) (w : EchoWorld) (now : Instant) : Attempt :=
  let host := t.host
  match r.echoAddress host with
  | .error e => .stuck ("Could not send ICMP to service " ++ host ++ ", " ++ e.message)
  | .ok ip =>
    let echo (known : Icmp.Capability) : Icmp.Attempt :=
      Icmp.attempt known w.sockets w.command ip w.identity now t.patience
    match w.capability with
    | some known => ofEcho host (echo known)
    | none =>
      let (found, acts, line) := Icmp.detect w.sockets
      (ofEcho host (echo found)).finding found acts line

end Target

end Uptime
