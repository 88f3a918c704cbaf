import Uptime.Outcome
import Uptime.Record
import Uptime.Target

/-!
# The live status of a target

The status takes over what each attempt measured. A recorded success ends a streak of failures, a
recorded failure begins or continues one; both leave a record.
-/

namespace Uptime

/-- An instant as it is shown at an offset from UTC, in seconds. -/
structure LocalTime where
  instant : Instant
  offset : Int
deriving DecidableEq, Repr

/-- What is known about a target from the checks so far. -/
structure Status where
  online : Bool := false
  latency : Duration := .zero
  /-- The time that the lookup of the host took. -/
  pingTime : Duration := .zero
  lastResponse : String := ""
  lastStatusCode : Int32 := 0
  /-- The recorded failures since the last recorded success. -/
  failureCount : UInt32 := 0
  lastOnline : Option LocalTime := none
  /-- The first failure of the current streak. -/
  downSince : Option Instant := none
  downText : String := ""
  successNotified : Bool := false
deriving DecidableEq, Repr

/-- For how long a target has been offline at the instant `now`; never less than no time. -/
def downtimeText (name : String) (now since : Instant) : String :=
  name ++ " has been offline for " ++ (now.since since).readable

namespace Status

/-- Takes over whatever the attempt measured. -/
def measured (s : Status) (o : Outcome) : Status :=
  { s with
    latency := o.latency.getD s.latency
    pingTime := o.pingTime.getD s.pingTime
    lastResponse := o.response.getD s.lastResponse
    lastStatusCode := o.statusCode.getD s.lastStatusCode }

/-- The status after a success that is recorded at the instant `now`. -/
def succeeded (s : Status) (now : Instant) (offset : Int) : Status :=
  { s with
    lastOnline := some ⟨now, offset⟩
    online := true
    successNotified := true
    failureCount := 0
    downSince := none
    downText := "" }

/-- The status after a failure that is recorded at the instant `now`. The downtime counts from the
last success, or from the first failure if there never was one. -/
def failedAt (s : Status) (name : String) (now : Instant) : Status :=
  let first := s.downSince.getD now
  let since := (s.lastOnline.map (·.instant)).getD first
  { s with
    downSince := some first
    online := false
    successNotified := false
    downText := downtimeText name now since
    failureCount := s.failureCount + 1 }

/-- The hit that a success leaves. -/
def hit (s : Status) (t : Target) (now : Instant) : Hit :=
  { targetId := t.id, latency := s.latency.toDouble, pingTime := s.pingTime.toDouble,
    createdAt := now }

/-- The failure that a failed attempt leaves. -/
def failure (s : Status) (t : Target) (issue : String) (now : Instant) : Failure :=
  { targetId := t.id, issue, pingTime := s.pingTime.toDouble, errorCode := s.lastStatusCode,
    createdAt := now }

/-- Records an attempt whose measurements the status already holds. -/
def record (s : Status) (t : Target) (issue : Option String) (now : Instant) (offset : Int) :
    Status × Record :=
  match issue with
  | none =>
    let s := s.succeeded now offset
    (s, .hit (s.hit t now))
  | some issue =>
    let s := s.failedAt t.name now
    (s, .failure (s.failure t issue now))

end Status

end Uptime
