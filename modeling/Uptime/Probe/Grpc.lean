import Uptime.Grpc.Channel
import Uptime.Grpc.Health
import Uptime.Probe.Attempt
import Uptime.Probe.Host

/-!
# gRPC attempts

The host is looked up first, for the time it takes. Then the health service is asked over a channel,
and only a service that is serving is healthy, whatever the target says it expects.
-/

namespace Uptime.Target

/-- What is said about a time that ran out. -/
def overdue (patience : Duration) : String := "context deadline exceeded after " ++ patience.text

/-- The outcome of an answer of the health service. -/
def healthy (t : Target) (o : Outcome) (status : Int32) (after : Duration) : Outcome :=
  let state := Grpc.ServingStatus.ofCode status
  let o := { o with
    latency := some after, statusCode := some status, response := some state.response }
  if status = Grpc.ServingStatus.serving.code then o
  else o.failed ("GRPC Service: '" ++ t.name ++ "', Status Code: expected '" ++
    Grpc.ServingStatus.serving.name ++ "', got '" ++ state.name ++ "'")

/-- One attempt at a gRPC target, after its host was looked up with this result. The host is read
twice, so a warning about it comes twice. -/
def tryGrpc (t : Target) (lookup : Except ProbeError Duration) (r : Resolver) (n : Network)
    (health : Grpc.Call) : Attempt :=
  let (host, warnings) := t.hostAndLog
  let log := warnings ++ warnings
  match lookup with
  | .error e => .stuck e.message log
  | .ok time =>
    let o : Outcome := { pingTime := some time }
    let failed (reason : String) : Attempt := { outcome := o.failed ("GRPC Error " ++ reason), log }
    match Grpc.authority? t.verifySsl host t.port with
    | .error e => failed e.message
    | .ok authority =>
      if t.patience ≤ n.delay then failed (overdue t.patience)
      else match Grpc.dial r n t.verifySsl authority with
        | .error e => failed e.message
        | .ok _ =>
          match health with
          | .late => failed (overdue t.patience)
          | .failed reason => failed reason
          | .answered status after => { outcome := t.healthy o status after, log }

end Uptime.Target
