import Uptime.Time.Duration

/-!
# The outcome of one attempt

What an attempt never got far enough to measure is absent, and leaves the earlier value alone.
-/

namespace Uptime

/-- What one attempt at a target measured, and why it failed if it did. -/
structure Outcome where
  latency : Option Duration := none
  /-- The time that the lookup of the host took. -/
  pingTime : Option Duration := none
  response : Option String := none
  statusCode : Option Int32 := none
  issue : Option String := none
deriving DecidableEq, Repr

namespace Outcome

/-- An attempt succeeds if it raised no issue. -/
def isSuccess (o : Outcome) : Bool := o.issue.isNone

/-- The same measurements with an issue. -/
def failed (o : Outcome) (issue : String) : Outcome := { o with issue := some issue }

theorem isSuccess_failed (o : Outcome) (issue : String) : (o.failed issue).isSuccess = false := rfl

end Outcome

end Uptime
