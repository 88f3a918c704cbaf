import Uptime.Probe.Error
import Uptime.Time.Timer

/-!
# Waiting for the echo worker

An echo runs apart from the check that asked for it and reports one result. The check waits for it
no longer than the timeout; a result that comes later is not taken.
-/

namespace Uptime.Icmp

/-- The worker: when it ends, and its result, if it leaves one. -/
structure Worker where
  after : Duration
  result : Option (Except ProbeError Duration)

/-- What waiting comes to. -/
structure Awaited where
  result : Except ProbeError Duration
  elapsed : Duration
  /-- Whether the worker's result was taken. -/
  delivered : Bool

/-- Waits for the worker. -/
def awaitReply (timeout : Duration) (w : Worker) : Awaited :=
  let limit := Duration.zero.wakeAfter timeout
  if w.after < limit then
    match w.result with
    | some result => ⟨result, w.after, true⟩
    | none => ⟨.error (.network "ICMP worker exited without a result"), w.after, false⟩
  else ⟨.error (.timeout timeout), limit, false⟩

end Uptime.Icmp
