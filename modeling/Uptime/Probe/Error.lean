import Uptime.Net.SystemError
import Uptime.Time.Duration

/-!
# Why a probe fails

The text of the error becomes the issue of the failed attempt.
-/

namespace Uptime

/-- Why a step of a probe fails. -/
inductive ProbeError where
  /-- The host has no address. -/
  | resolve (host reason : String)
  | timeout (after : Duration)
  | network (reason : String)
  | permissionDenied (reason : String)
  | command (reason : String)
deriving DecidableEq, Repr

namespace ProbeError

/-- What is said about the error. -/
def message : ProbeError → String
  | .resolve host reason => "Could not get IP address for domain " ++ host ++ ", " ++ reason
  | .timeout after => "probe timed out after " ++ after.text
  | .network reason => "network error: " ++ reason
  | .permissionDenied reason => "permission denied: " ++ reason
  | .command reason => "command failed: " ++ reason

/-- The error of a probe that an error of the system becomes. -/
def ofSystem (e : SystemError) : ProbeError :=
  if e.isPermission then .permissionDenied e.message else .network e.message

/-- The texts of an error and of the errors behind it as one. -/
def chain : List String → String := ": ".intercalate

end ProbeError

end Uptime
