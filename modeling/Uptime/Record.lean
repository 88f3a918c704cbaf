import Uptime.Json.Printer
import Uptime.Time.Text

/-!
# Records of checks

What a recorded check leaves behind: a hit if it succeeded, a failure if it did not. Times spent are
in seconds. Their JSON texts list the fields in order.
-/

namespace Uptime

/-- A successful check. -/
structure Hit where
  targetId : Int64
  latency : Float
  pingTime : Float
  createdAt : Instant

/-- A failed check. -/
structure Failure where
  targetId : Int64
  issue : String
  pingTime : Float
  errorCode : Int32
  createdAt : Instant

/-- What one recorded check leaves behind. -/
inductive Record where
  | hit (hit : Hit)
  | failure (failure : Failure)

/-- The compact JSON text of a hit. -/
def Hit.jsonText (h : Hit) : String :=
  String.ofList <| Json.objectText
    [("target_id", Number.signed h.targetId.toInt),
     ("latency", Json.doubleText h.latency),
     ("ping_time", Json.doubleText h.pingTime),
     ("created_at", Json.stringText h.createdAt.zuluText)]

/-- The compact JSON text of a failure. -/
def Failure.jsonText (f : Failure) : String :=
  String.ofList <| Json.objectText
    [("target_id", Number.signed f.targetId.toInt),
     ("issue", Json.stringText f.issue),
     ("ping_time", Json.doubleText f.pingTime),
     ("error_code", Number.signed f.errorCode.toInt),
     ("created_at", Json.stringText f.createdAt.zuluText)]

end Uptime
