import Uptime.Net.Network
import Uptime.Probe.Attempt
import Uptime.Probe.Error
import Uptime.Target

/-!
# Socket attempts

The host is looked up first, for the time it takes. Then a connection to the dialled address is
opened and closed again.
-/

namespace Uptime

/-- Dials a text. TCP tries all endpoints in turn, UDP takes the first one. -/
def dial (transport : Transport) (r : Resolver) (n : Network) (text : String) :
    Except SystemError Endpoint :=
  match r.endpoints text with
  | .error e => .error e
  | .ok endpoints =>
    match transport, endpoints with
    | .tcp, _ => n.tcp.first endpoints
    | .udp, [] => .error (.other ("no addresses for " ++ text))
    | .udp, e :: _ => n.udp.first [e]

namespace Target

/-- The outcome of dialling, after a lookup that took so long. -/
def dialled (t : Target) (transport : Transport) (lookupTime : Duration) (r : Resolver)
    (n : Network) : Outcome :=
  let o : Outcome := { pingTime := some lookupTime }
  let text := dialText t.address t.port
  if t.patience ≤ n.delay then
    o.failed ("Dial Error dial " ++ transport.name ++ " " ++ text ++ ": i/o timeout after " ++
      t.patience.text)
  else match dial transport r n text, transport, n.closing with
    | .error e, _, _ => o.failed ("Dial Error " ++ e.message)
    | .ok _, .tcp, some e => o.failed ("TCP Socket Close Error " ++ e.message)
    | .ok _, _, _ => { o with latency := some n.delay, response := some "" }

/-- One attempt at a socket target, after its host was looked up with this result. -/
def trySocket (t : Target) (transport : Transport) (lookup : Except ProbeError Duration)
    (r : Resolver) (n : Network) : Attempt :=
  match lookup with
  | .error e => .stuck e.message
  | .ok time => { outcome := t.dialled transport time r n }

end Target

end Uptime
