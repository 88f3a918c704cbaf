import Uptime.Kind
import Uptime.Time.Duration

/-!
# Targets

A monitored service as it is configured. Intervals are seconds below ten thousand and microseconds
from there on, which keeps the period of a loop at ten milliseconds or more
(`Target.periodOf_ge`).
-/

namespace Uptime

/-- A monitored service. A field that a configuration leaves out has the default given here. -/
structure Target where
  id : Int64 := 0
  name : String := ""
  kind : Kind := .http
  address : String := ""
  port : Option UInt16 := none
  /-- The HTTP method; blank means `GET`. -/
  method : String := "GET"
  postData : Option String := none
  /-- Pairs of a header name and its value with `=` between them, parted by commas. -/
  headers : Option String := none
  verifySsl : Bool := false
  /-- The regular expression that the HTTP body must match. -/
  expected : Option String := none
  expectedStatus : UInt16 := 200
  /-- The time between two checks, see `Target.period`. -/
  interval : UInt64 := 60
  /-- The bound on one attempt in seconds; zero means the default. -/
  timeout : UInt64 := 30
deriving DecidableEq, Repr

namespace Target

/-- From this value on an interval is in microseconds. -/
def microsecondsFrom : Nat := 10000

/-- The bound on one attempt where none is configured, in seconds. -/
def defaultTimeout : Nat := 30

/-- The length of an interval that is configured as `n`. -/
def periodOf (n : Nat) : Duration :=
  if microsecondsFrom ≤ n then .ofMicros n else if n = 0 then .ofSeconds 1 else .ofSeconds n

/-- The nominal time between two checks. -/
def period (t : Target) : Duration := periodOf t.interval.toNat

/-- The bound on one attempt. -/
def patience (t : Target) : Duration :=
  .ofSeconds (if t.timeout = 0 then defaultTimeout else t.timeout.toNat)

/-- No period is shorter than ten milliseconds. -/
theorem periodOf_ge (n : Nat) : 10000000 ≤ (periodOf n).nanoseconds := by
  unfold periodOf microsecondsFrom
  split
  · simp only [Duration.ofMicros]; omega
  · split <;> simp only [Duration.ofSeconds] <;> omega

end Target

end Uptime
