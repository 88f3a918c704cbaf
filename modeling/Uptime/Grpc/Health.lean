import Uptime.Time.Duration

/-!
# Health of services

A health service answers whether it is serving by a number.
-/

namespace Uptime.Grpc

/-- The states of a service that have a name. -/
inductive ServingStatus where
  | unknown
  | serving
  | notServing
  | serviceUnknown
deriving DecidableEq, Repr

namespace ServingStatus

/-- All states. -/
def all : List ServingStatus := [.unknown, .serving, .notServing, .serviceUnknown]

/-- The number of a state. -/
def code : ServingStatus → Int32
  | .unknown => 0
  | .serving => 1
  | .notServing => 2
  | .serviceUnknown => 3

/-- The name of a state. -/
def name : ServingStatus → String
  | .unknown => "UNKNOWN"
  | .serving => "SERVING"
  | .notServing => "NOT_SERVING"
  | .serviceUnknown => "SERVICE_UNKNOWN"

/-- The state with a number; numbers without a state are unknown. -/
def ofCode (n : Int32) : ServingStatus := (all.find? fun s => s.code == n).getD .unknown

/-- The response that a state is shown as. -/
def response (s : ServingStatus) : String := "status:" ++ s.name

theorem ofCode_code (s : ServingStatus) : ofCode s.code = s := by cases s <;> decide

end ServingStatus

/-- The response of a healthy service. -/
def expectedResponse : String := "status:SERVING"

/-- What a call of a health service comes to. -/
inductive Call where
  /-- No answer in time. -/
  | late
  | failed (reason : String)
  | answered (status : Int32) (after : Duration)

end Uptime.Grpc
