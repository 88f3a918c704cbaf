import Uptime.Http.Request
import Uptime.Probe.Attempt
import Uptime.Probe.Host
import Uptime.Regex.Match

/-!
# HTTP attempts

The host is looked up first, for the time it takes, and a client is set up. Then the request is sent
and the whole answer is read. Its body must match the configured expression, if there is one, and
its status must be the expected one; the body is looked at first. An expression that cannot be read
matches nothing.
-/

namespace Uptime

namespace Http

/-- What a request comes to. -/
structure Answer where
  status : UInt16
  /-- The text of the body, if all of it arrived. -/
  body : Except RequestError String
  /-- The time until the whole body was read. -/
  after : Duration := .zero

/-- The servers of the web, which answer requests or do not. -/
abbrev Web := Request → Except RequestError Answer

/-- A web in which no request gets anywhere. -/
def Web.unreachable : Web := fun r => .error (.exchange r.urlText)

end Http

/-- Whether the body is as a target expects, and the warning about an expression that cannot be
read. -/
def bodyMatches (name pattern body : String) : Bool × List Log.Entry :=
  match Regex.matches? pattern body with
  | some matched => (matched, [])
  | none =>
    let message := "Service " ++ name ++ " expected pattern '" ++ pattern ++
      "' is not a valid regular expression"
    (false, [{ level := .warn, source := .http, message }])

namespace Target

/-- The expression that a body must match; an empty one is none. -/
def expectation? (t : Target) : Option String := t.expected.filter (!·.isEmpty)

/-- What a target says to an answer with this status and body, and the warnings on the way. -/
def verdict (t : Target) (status : UInt16) (body : String) : Option String × List Log.Entry :=
  let (matched, log) := match t.expectation? with
    | none => (true, [])
    | some pattern => bodyMatches t.name pattern body
  let decimal (n : UInt16) : String := String.ofList (Number.digits n.toNat)
  if !matched then
    (some ("HTTP Response Body did not match '" ++ t.expectation?.getD "" ++ "'"), log)
  else if status ≠ t.expectedStatus then
    let wanted := decimal t.expectedStatus
    (some ("HTTP Status Code " ++ decimal status ++ " did not match " ++ wanted), log)
  else (none, log)

/-- The outcome of an answer whose whole body was read. -/
def answered (t : Target) (o : Outcome) (status : UInt16) (body : String) (after : Duration) :
    Attempt :=
  let (issue, log) := t.verdict status body
  { outcome := { o with
      latency := some after, statusCode := some (Int32.ofNat status.toNat), response := some body,
      issue },
    log }

/-- One attempt at an HTTP target, after its host was looked up with this result. Without a client
the request is not even made. -/
def tryHttp (t : Target) (lookup : Except ProbeError Duration) (hasClient : Bool) (web : Http.Web) :
    Attempt :=
  match lookup with
  | .error e => .stuck e.message
  | .ok time =>
    let o : Outcome := { pingTime := some time }
    let failed (e : Http.RequestError) (warnings : List Log.Entry) : Attempt :=
      { outcome := o.failed ("HTTP Error " ++ e.message), log := warnings }
    if !hasClient then failed .client []
    else
      let (request, warnings) := t.request
      match request.bind fun r => web r with
      | .error e => failed e warnings
      | .ok answer =>
        match answer.body with
        | .error e => failed e warnings
        | .ok body =>
          let a := t.answered o answer.status body answer.after
          { a with log := warnings ++ a.log }

end Target

end Uptime
