import Uptime.Probe.Run

/-!
# Whose expectations count

What a target expects of a web server is nothing to the other kinds of attempts, and neither is what
a web server is asked. A health service is healthy if it answers the number of a service that is
serving, and the response that it is shown as says the same, as no other number is shown so
(`attempt_ignores`).
-/

namespace Uptime

/-! ## States of services -/

namespace Grpc.ServingStatus

/-- Only its own number stands for a service that is serving. -/
theorem ofCode_eq_serving_iff {n : Int32} : ofCode n = .serving ↔ n = serving.code := by
  constructor
  · intro shown
    unfold ofCode at shown
    cases found : all.find? fun s => s.code == n with
    | none => rw [found] at shown; cases shown
    | some s =>
      rw [found] at shown
      obtain rfl : s = .serving := shown
      exact (beq_iff_eq.1 (List.find?_some found :)).symm
  · rintro rfl
    exact ofCode_code .serving

/-- No other state is shown as a healthy one. -/
theorem response_eq_expected_iff {s : ServingStatus} :
    s.response = expectedResponse ↔ s = .serving := by
  cases s <;> decide

end Grpc.ServingStatus

namespace Target

variable {t u : Target} {w : World}

/-! ## Attempts at health services -/

/-- The health service of a target is reached, and answers a number. -/
structure Hears (t : Target) (w : World) (n : Int32) (after : Duration) : Prop where
  found : ∃ time, w.lookup t = .ok time
  reached : ∃ authority endpoint, Grpc.authority? t.verifySsl t.host t.port = .ok authority ∧
    Grpc.dial w.names w.network t.verifySsl authority = .ok endpoint
  inTime : ¬t.patience ≤ w.network.delay
  answered : w.health = .answered n after

/-- What an attempt comes to whose health service answers a number. -/
structure GoesBy (n : Int32) (o : Outcome) : Prop where
  statusCode : o.statusCode = some n
  success : o.isSuccess = true ↔ n = Grpc.ServingStatus.serving.code
  response : o.response = some Grpc.expectedResponse ↔ n = Grpc.ServingStatus.serving.code

theorem goesBy_healthy (t : Target) (o : Outcome) (clean : o.issue = none) (n : Int32)
    (after : Duration) : GoesBy n (t.healthy o n after) := by
  have shown : (t.healthy o n after).response = some (Grpc.ServingStatus.ofCode n).response := by
    unfold healthy
    simp only []
    split <;> rfl
  constructor
  case statusCode =>
    unfold healthy
    simp only []
    split <;> rfl
  case success =>
    unfold healthy
    simp only []
    split
    · next serving => simp [Outcome.isSuccess, clean, serving]
    · next other => simp [Outcome.isSuccess_failed, other]
  case response =>
    rw [shown, Option.some.injEq, Grpc.ServingStatus.response_eq_expected_iff,
      Grpc.ServingStatus.ofCode_eq_serving_iff]

section Grpc

variable (grpc : t.kind = .grpc)

include grpc

theorem attempt_grpc :
    t.attempt w = t.tryGrpc (w.lookup t) w.names w.network w.health := by
  rw [attempt, grpc]
  rfl

theorem goesBy_of_hears {n : Int32} {after : Duration} (hears : t.Hears w n after) :
    GoesBy n (t.attempt w).outcome := by
  obtain ⟨⟨time, found⟩, ⟨authority, endpoint, named, dialled⟩, inTime, answered⟩ := hears
  have outcome : (t.attempt w).outcome = t.healthy { pingTime := some time } n after := by
    rw [attempt_grpc grpc]
    unfold host at named
    unfold tryGrpc
    simp only [found, named, inTime, if_false, dialled, answered]
  rw [outcome]
  exact goesBy_healthy t _ rfl n after

/-- An attempt whose health service answers nothing fails, and measures neither. -/
theorem attempt_of_not_hears (silent : ∀ n after, ¬t.Hears w n after) :
    (t.attempt w).outcome.isSuccess = false ∧ (t.attempt w).outcome.statusCode = none ∧
      (t.attempt w).outcome.response = none := by
  rw [attempt_grpc grpc]
  unfold tryGrpc
  simp only []
  split
  · exact ⟨rfl, rfl, rfl⟩
  · next time found =>
    split
    · exact ⟨rfl, rfl, rfl⟩
    · next authority named =>
      split
      · exact ⟨rfl, rfl, rfl⟩
      · next inTime =>
        split
        · exact ⟨rfl, rfl, rfl⟩
        · next endpoint dialled =>
          split
          · exact ⟨rfl, rfl, rfl⟩
          · exact ⟨rfl, rfl, rfl⟩
          · next n after answered =>
            exact absurd ⟨⟨time, found⟩, ⟨authority, endpoint, named, dialled⟩, inTime, answered⟩
              (silent n after)

end Grpc

/-! ## What attempts do not read -/

/-- The target without what it asks of a web server and expects of it. Whether certificates are
verified stays only where a channel may be secured. -/
def essentials (t : Target) : Target :=
  { t with
    method := "GET", postData := none, headers := none, expected := none, expectedStatus := 200
    verifySsl := t.verifySsl && decide (t.kind = .grpc) }

theorem lookup_essentials (t : Target) (w : World) : w.lookup t.essentials = w.lookup t := rfl

theorem trySocket_essentials (t : Target) : t.essentials.trySocket = t.trySocket := rfl

theorem tryEcho_essentials (t : Target) : t.essentials.tryEcho = t.tryEcho := rfl

/-- A health service is asked over the same channel, as the certificates matter there. -/
theorem tryGrpc_essentials (grpc : t.kind = .grpc) : t.essentials.tryGrpc = t.tryGrpc := by
  have secured : t.essentials.verifySsl = t.verifySsl := by simp [essentials, grpc]
  unfold tryGrpc
  rw [secured]
  rfl

/-- Only an HTTP target's attempt reads more than the essentials. -/
theorem attempt_essentials (notHttp : t.kind ≠ .http) : t.essentials.attempt w = t.attempt w := by
  have probe : t.essentials.kind.probe = t.kind.probe := rfl
  unfold attempt
  rw [probe, lookup_essentials, trySocket_essentials, tryEcho_essentials]
  cases kind : t.kind with
  | http => exact absurd kind notHttp
  | tcp | udp | icmp => rfl
  | grpc =>
    rw [tryGrpc_essentials kind]
    rfl

/-- Attempts at health services go by the number that is answered, and no attempt but one at a web
server reads what is asked and expected of web servers. -/
theorem attempt_ignores (t : Target) (w : World) :
    (t.kind = .grpc →
      (∀ n after, t.Hears w n after → GoesBy n (t.attempt w).outcome) ∧
      ((∀ n after, ¬t.Hears w n after) →
        (t.attempt w).outcome.isSuccess = false ∧ (t.attempt w).outcome.statusCode = none ∧
          (t.attempt w).outcome.response = none)) ∧
    (t.kind ≠ .http → ∀ u : Target, t.essentials = u.essentials → t.attempt w = u.attempt w) := by
  constructor
  · intro grpc
    exact ⟨fun _ _ hears => goesBy_of_hears grpc hears, attempt_of_not_hears grpc⟩
  · intro notHttp u alike
    have kind : t.kind = u.kind := congrArg (·.kind) alike
    calc t.attempt w = t.essentials.attempt w := (attempt_essentials notHttp).symm
      _ = u.essentials.attempt w := by rw [alike]
      _ = u.attempt w := attempt_essentials (kind ▸ notHttp)

/-- A target with a health service, and an expectation that is none of that service's. -/
def askingHealth (expected : Option String) : Target :=
  { kind := .grpc, address := "127.0.0.1", port := some 50051, expected }

/-- A world in which every connection comes about, and whose health service answers a number. -/
def responding (n : Int32) : World :=
  { World.cutOff ⟨0, 0⟩ with
    network := { tcp := fun _ => none, udp := fun _ => none }
    health := .answered n .zero }

theorem attempt_ignores_unnamed :
    (askingHealth none).kind = .grpc ∧ (askingHealth none).Hears (responding 42) 42 .zero ∧
      ((askingHealth none).attempt (responding 42)).outcome.statusCode = some 42 ∧
      ((askingHealth none).attempt (responding 42)).outcome.isSuccess = false ∧
      (askingHealth none).attempt (responding 42) =
        (askingHealth (some "(")).attempt (responding 42) := by
  have connected : ((Grpc.authority? false "127.0.0.1" (some 50051)).bind
      (Grpc.dial (responding 42).names (responding 42).network false)).isOk = true := by
    decide +kernel
  have hears : (askingHealth none).Hears (responding 42) 42 .zero := by
    constructor
    case found => exact ⟨.zero, by rfl⟩
    case reached =>
      cases named : Grpc.authority? false "127.0.0.1" (some 50051) with
      | error e => rw [named] at connected; cases connected
      | ok authority =>
        rw [named] at connected
        cases dialled : Grpc.dial (responding 42).names (responding 42).network false authority with
        | error e => rw [Except.bind, dialled] at connected; cases connected
        | ok endpoint => exact ⟨authority, endpoint, named, dialled⟩
    case inTime => decide
    case answered => rfl
  obtain ⟨health, ignored⟩ := attempt_ignores (askingHealth none) (responding 42)
  have goesBy := (health rfl).1 42 .zero hears
  refine ⟨rfl, hears, goesBy.statusCode, ?_, ignored (by decide) (askingHealth (some "(")) rfl⟩
  exact Bool.eq_false_iff.2 (mt goesBy.success.1 (by decide))

end Target

end Uptime
