import Uptime.Proofs.Probe.Measurements

/-!
# What becomes of answers

An HTTP target's exchange with the web ends without an answer, for a reason (`Unanswered`), or with
one that is read as a whole (`Answered`). An answer is measured whatever it says, and the verdict on
it looks at the body before the status; without an answer a check fails and tells of the status and
the body that were shown before (`check_judges`).
-/

namespace Uptime

namespace Target

variable {t : Target} {w : World}

/-! ## Exchanges -/

/-- The request of a target is answered, and its body is read to the end. -/
inductive Answered (t : Target) (w : World) : UInt16 → String → Duration → Prop
  | intro {time after : Duration} {r : Http.Request} {status : UInt16} {body : String}
      (found : w.lookup t = .ok time) (client : w.hasClient = true) (asked : t.request.1 = .ok r)
      (read : w.web r = .ok ⟨status, .ok body, after⟩) : Answered t w status body after

/-- The exchange of a target fails, and what is said about that. -/
inductive Unanswered (t : Target) (w : World) : String → Prop
  /-- Its host is not found, -/
  | lookup {e : ProbeError} (lost : w.lookup t = .error e) : Unanswered t w e.message
  /-- no client can be set up, -/
  | client {time : Duration} (found : w.lookup t = .ok time) (none : w.hasClient = false) :
      Unanswered t w ("HTTP Error " ++ Http.RequestError.client.message)
  /-- its method cannot be sent, -/
  | method {time : Duration} {e : Http.RequestError} (found : w.lookup t = .ok time)
      (client : w.hasClient = true) (unsendable : Http.method? t.method = .error e) :
      Unanswered t w ("HTTP Error " ++ e.message)
  /-- no request can be made to its address, -/
  | address {time : Duration} {method : String} {e : Http.RequestError}
      (found : w.lookup t = .ok time) (client : w.hasClient = true)
      (sendable : Http.method? t.method = .ok method)
      (unmade : Http.Request.make method t.address (Http.Headers.read t.headers).1 t.postData =
        .error e) : Unanswered t w ("HTTP Error " ++ e.message)
  /-- its request is not answered, -/
  | request {time : Duration} {r : Http.Request} {e : Http.RequestError}
      (found : w.lookup t = .ok time) (client : w.hasClient = true) (asked : t.request.1 = .ok r)
      (failed : w.web r = .error e) : Unanswered t w ("HTTP Error " ++ e.message)
  /-- or the body of the answer cannot be read. -/
  | body {time : Duration} {r : Http.Request} {answer : Http.Answer} {e : Http.RequestError}
      (found : w.lookup t = .ok time) (client : w.hasClient = true) (asked : t.request.1 = .ok r)
      (answered : w.web r = .ok answer) (unread : answer.body = .error e) :
      Unanswered t w ("HTTP Error " ++ e.message)

theorem answered_or_unanswered (t : Target) (w : World) :
    (∃ status body after, t.Answered w status body after) ∨ ∃ issue, t.Unanswered w issue := by
  cases found : w.lookup t with
  | error e => exact .inr ⟨_, .lookup found⟩
  | ok time =>
    cases client : w.hasClient with
    | false => exact .inr ⟨_, .client found client⟩
    | true =>
      cases asked : t.request.1 with
      | error e =>
        unfold request at asked
        split at asked
        · next unsendable => exact .inr ⟨_, .method found client unsendable⟩
        · next sendable => exact .inr ⟨_, .address found client sendable asked⟩
      | ok r =>
        cases answered : w.web r with
        | error e => exact .inr ⟨_, .request found client asked answered⟩
        | ok answer =>
          obtain ⟨status, body, after⟩ := answer
          cases body with
          | error e => exact .inr ⟨_, .body found client asked answered rfl⟩
          | ok body => exact .inl ⟨status, body, after, .intro found client asked answered⟩

section Http

variable (http : t.kind = .http)

include http

theorem attempt_http : t.attempt w = t.tryHttp (w.lookup t) w.hasClient w.web := by
  rw [attempt, http]
  rfl

/-- An answer is measured as a whole, and judged. -/
theorem attempt_of_answered {status : UInt16} {body : String} {after : Duration}
    (h : t.Answered w status body after) :
    ∃ time, (t.attempt w).outcome =
      { latency := some after, pingTime := some time, response := some body,
        statusCode := some (Int32.ofNat status.toNat), issue := (t.verdict status body).1 } := by
  cases h with | @intro time _ r _ _ found client asked read =>
  refine ⟨time, ?_⟩
  rw [attempt_http http, client]
  unfold tryHttp
  simp only [found, Bool.not_true, Bool.false_eq_true, if_false, asked, Except.bind, read]
  rfl

theorem attempt_of_unanswered {issue : String} (h : t.Unanswered w issue) :
    ∃ time, (t.attempt w).outcome = ({ pingTime := time } : Outcome).failed issue := by
  rw [attempt_http http]
  unfold tryHttp
  cases h with
  | lookup lost =>
    rw [lost]
    exact ⟨none, rfl⟩
  | client found none =>
    rw [found, none]
    exact ⟨some _, rfl⟩
  | method found client unsendable =>
    rw [found, client, request, unsendable]
    exact ⟨some _, rfl⟩
  | address found client sendable unmade =>
    rw [found, client, request, sendable]
    simp only [unmade]
    exact ⟨some _, rfl⟩
  | request found client asked failed =>
    rw [found, client]
    simp only [asked, Except.bind, failed]
    exact ⟨some _, rfl⟩
  | body found client asked answered unread =>
    rw [found, client]
    simp only [asked, Except.bind, answered, unread]
    exact ⟨some _, rfl⟩

end Http

/-! ## Verdicts -/

/-- A body is as expected: no expression is configured, or one that can be read and matches. -/
def Accepts (t : Target) (body : String) : Prop :=
  t.expected = none ∨ t.expected = some "" ∨
    ∃ pattern, t.expected = some pattern ∧ Regex.matches? pattern body = some true

/-- What is said about a body that is not as expected. -/
def mismatch (pattern : String) : String := "HTTP Response Body did not match '" ++ pattern ++ "'"

/-- What is said about a status that is not the expected one. -/
def otherStatus (status expected : UInt16) : String :=
  "HTTP Status Code " ++ String.ofList (Number.digits status.toNat) ++ " did not match " ++
    String.ofList (Number.digits expected.toNat)

theorem expectation?_eq_none_iff :
    t.expectation? = none ↔ t.expected = none ∨ t.expected = some "" := by
  unfold expectation?
  cases t.expected with
  | none => simp
  | some pattern => simp [Option.filter_eq_none_iff]

theorem expectation?_eq_some_iff {pattern : String} :
    t.expectation? = some pattern ↔ t.expected = some pattern ∧ pattern ≠ "" := by
  unfold expectation?
  simp [Option.filter_eq_some_iff]

/-- An expression that cannot be read matches nothing. -/
theorem bodyMatches_iff {name pattern body : String} :
    (bodyMatches name pattern body).1 = true ↔ Regex.matches? pattern body = some true := by
  unfold bodyMatches
  cases Regex.matches? pattern body with
  | none => simp
  | some matched => simp

theorem accepts_of_none {body : String} (none : t.expectation? = none) : t.Accepts body := by
  rcases expectation?_eq_none_iff.1 none with unset | empty
  · exact .inl unset
  · exact .inr (.inl empty)

theorem accepts_of_some {pattern body : String} (some : t.expectation? = some pattern) :
    t.Accepts body ↔ (bodyMatches t.name pattern body).1 = true := by
  obtain ⟨expected, given⟩ := expectation?_eq_some_iff.1 some
  rw [Accepts, expected, bodyMatches_iff]
  simp [given]

/-- A body that is not as expected is what the verdict is about, whatever the status is. -/
theorem verdict_of_not_accepts {body : String} (other : ¬t.Accepts body) (status : UInt16) :
    ∃ pattern, t.expected = some pattern ∧ (t.verdict status body).1 = some (mismatch pattern) := by
  cases expectation : t.expectation? with
  | none => exact absurd (accepts_of_none expectation) other
  | some pattern =>
    refine ⟨pattern, (expectation?_eq_some_iff.1 expectation).1, ?_⟩
    have unmatched := mt (accepts_of_some expectation).2 other
    unfold verdict
    simp only [expectation, unmatched, Bool.not_false, if_true]
    rfl

/-- With a body that is as expected it is the status that decides. -/
theorem verdict_of_accepts {body : String} (accepted : t.Accepts body) (status : UInt16) :
    (t.verdict status body).1 =
      if status ≠ t.expectedStatus then some (otherStatus status t.expectedStatus) else none := by
  unfold verdict
  cases expectation : t.expectation? with
  | none =>
    simp only [Bool.not_true, Bool.false_eq_true, if_false]
    split <;> rfl
  | some pattern =>
    have matched := (accepts_of_some expectation).1 accepted
    simp only [matched, Bool.not_true, Bool.false_eq_true, if_false]
    split <;> rfl

end Target

/-! ## Checks -/

namespace Monitor

variable {m : Monitor} {c : RecorderConfig} {storage : Reply} {n : Notifier} {w : World}

/-- The failure that a check records tells the issue of its attempt, and the status code that is
shown then. -/
theorem failure_of_issue (http : m.target.kind = .http) (c : RecorderConfig) (storage : Reply)
    {issue : String} (failed : (m.target.attempt w).outcome.issue = some issue) :
    ∃ f, (m.check c storage n w true).record = some (.failure f) ∧ f.issue = issue ∧
      f.errorCode = (m.check c storage n w true).status.lastStatusCode := by
  have settled : (m.target.attempt w).brokenOff = false :=
    Target.settled_attempt (by rw [http]; exact nofun) w
  rw [check_of_settled settled]
  unfold conclude Status.record
  simp only [failed, if_true]
  exact ⟨_, rfl, rfl, rfl⟩

/-- What a check `k` with the outcome `o` makes of an answer with this status and body. -/
structure Judges (m : Monitor) (recorded : Bool) (o : Outcome) (k : Check) (status : UInt16)
    (body : String) (after : Duration) : Prop where
  /-- The attempt succeeds just if body and status are as expected. -/
  success : o.isSuccess = true ↔ m.target.Accepts body ∧ status = m.target.expectedStatus
  /-- A body that is not as expected is the issue, whatever the status is, -/
  wrongBody : ¬m.target.Accepts body →
    ∃ pattern, m.target.expected = some pattern ∧ o.issue = some (Target.mismatch pattern)
  /-- else the status, if it is not the expected one. -/
  wrongStatus : m.target.Accepts body → status ≠ m.target.expectedStatus →
    o.issue = some (Target.otherStatus status m.target.expectedStatus)
  /-- In all cases the answer is measured, -/
  measured : o.latency = some after ∧ o.response = some body ∧
    ∃ code, o.statusCode = some code ∧ code.toInt = status.toNat
  /-- it is shown from then on, -/
  shown : k.status.latency = after ∧ k.status.lastResponse = body ∧
    k.status.lastStatusCode.toInt = status.toNat
  /-- and its status is in the record of a failure. -/
  failure : recorded = true → ∀ issue, o.issue = some issue →
    ∃ f, k.record = some (.failure f) ∧ f.issue = issue ∧ f.errorCode.toInt = status.toNat

/-- What a check `k` with the outcome `o` makes of an exchange that fails. -/
structure Misses (m : Monitor) (recorded : Bool) (o : Outcome) (k : Check) (issue : String) :
    Prop where
  failed : o.issue = some issue
  /-- Response and status are not measured, -/
  unmeasured : o.response = none ∧ o.statusCode = none
  /-- so the earlier ones are shown, -/
  kept : k.status.lastResponse = m.status.lastResponse ∧
    k.status.lastStatusCode = m.status.lastStatusCode
  /-- and the earlier status is in the record of the failure. -/
  failure : recorded = true → ∃ f, k.record = some (.failure f) ∧ f.issue = issue ∧
    f.errorCode = m.status.lastStatusCode

section Http

variable (http : m.target.kind = .http) {recorded : Bool}

include http

theorem judges_of_answered {status : UInt16} {body : String} {after : Duration}
    (answered : m.target.Answered w status body after) :
    m.Judges recorded (m.target.attempt w).outcome (m.check c storage n w recorded) status body
      after := by
  obtain ⟨time, outcome⟩ := Target.attempt_of_answered http answered
  obtain ⟨latency, -, response, code⟩ := m.status_check c storage n w recorded
  have kept : (Int32.ofNat status.toNat).toInt = status.toNat := by
    have bound : status.toNat < 65536 := status.toNat_lt
    rw [Int32.toInt_ofNat_of_lt (by omega)]
  rw [outcome] at latency response code
  constructor
  case success =>
    rw [outcome, Outcome.isSuccess, Option.isNone_iff_eq_none]
    by_cases accepted : m.target.Accepts body
    · rw [Target.verdict_of_accepts accepted]
      simp [accepted]
    · obtain ⟨pattern, -, verdict⟩ := Target.verdict_of_not_accepts accepted status
      simp [verdict, accepted]
  case wrongBody =>
    intro other
    rw [outcome]
    exact Target.verdict_of_not_accepts other status
  case wrongStatus =>
    intro accepted other
    rw [outcome]
    exact (Target.verdict_of_accepts accepted status).trans (if_pos other)
  case measured =>
    rw [outcome]
    exact ⟨rfl, rfl, _, rfl, kept⟩
  case shown => exact ⟨latency, response, (congrArg Int32.toInt code).trans kept⟩
  case failure =>
    rintro rfl issue failed
    obtain ⟨f, record, tells, errorCode⟩ := failure_of_issue http c storage failed
    exact ⟨f, record, tells, (congrArg Int32.toInt (errorCode.trans code)).trans kept⟩

theorem misses_of_unanswered {issue : String} (unanswered : m.target.Unanswered w issue) :
    m.Misses recorded (m.target.attempt w).outcome (m.check c storage n w recorded) issue := by
  obtain ⟨time, outcome⟩ := Target.attempt_of_unanswered http unanswered
  obtain ⟨-, -, response, code⟩ := m.status_check c storage n w recorded
  have failed : (m.target.attempt w).outcome.issue = some issue := by rw [outcome]; rfl
  rw [outcome] at response code
  constructor
  case failed => exact failed
  case unmeasured =>
    rw [outcome]
    exact ⟨rfl, rfl⟩
  case kept => exact ⟨response, code⟩
  case failure =>
    rintro rfl
    obtain ⟨f, record, tells, errorCode⟩ := failure_of_issue http c storage failed
    exact ⟨f, record, tells, errorCode.trans code⟩

/-- A check of an HTTP target judges the answer to its request, or misses it. -/
theorem check_judges (c : RecorderConfig) (storage : Reply) (n : Notifier) (w : World)
    (recorded : Bool) :
    let o := (m.target.attempt w).outcome
    let k := m.check c storage n w recorded
    ((∃ status body after, m.target.Answered w status body after) ∨
      ∃ issue, m.target.Unanswered w issue) ∧
    (∀ status body after, m.target.Answered w status body after →
      m.Judges recorded o k status body after) ∧
    ∀ issue, m.target.Unanswered w issue → m.Misses recorded o k issue := by
  intro o k
  refine ⟨m.target.answered_or_unanswered w, ?_, ?_⟩
  · exact fun _ _ _ answered => judges_of_answered http answered
  · exact fun _ unanswered => misses_of_unanswered http unanswered

end Http

/-- A monitor of a page that should say that all is well. -/
def watching : Monitor :=
  { target := { address := "http://[::1]/", expected := some "(ok" }
    status := { lastStatusCode := 200, lastResponse := "ok" } }

/-- A world in which that page is gone. -/
def gone : World :=
  { World.cutOff ⟨0, 0⟩ with
    web := fun _ => .ok { status := 503, body := .ok "ok", after := .ofMillis 7 } }

theorem check_judges_gone :
    watching.target.kind = .http ∧ watching.target.Answered gone 503 "ok" (.ofMillis 7) ∧
      ∃ f, (watching.check {} .done .log gone true).record = some (.failure f) ∧
        f.issue = "HTTP Response Body did not match '(ok'" ∧ f.errorCode.toInt = 503 := by
  have found : gone.lookup watching.target = .ok .zero := by rfl
  have made : watching.target.request.1.isOk = true := by decide +kernel
  have unread : Regex.matches? "(ok" "ok" = none := by decide +kernel
  have answered : watching.target.Answered gone 503 "ok" (.ofMillis 7) := by
    cases asked : watching.target.request.1 with
    | error e => rw [asked] at made; cases made
    | ok r => exact .intro found rfl asked rfl
  have other : ¬watching.target.Accepts "ok" := by
    rintro (unset | empty | ⟨pattern, expected, matched⟩)
    · cases unset
    · exact absurd empty (by decide)
    · obtain rfl : "(ok" = pattern := Option.some.inj expected
      cases unread.symm.trans matched
  obtain ⟨-, judges, -⟩ := check_judges (m := watching) rfl {} .done .log gone true
  obtain ⟨pattern, expected, issue⟩ := (judges _ _ _ answered).wrongBody other
  obtain rfl : "(ok" = pattern := Option.some.inj expected
  exact ⟨rfl, answered, (judges _ _ _ answered).failure rfl _ issue⟩

end Monitor

end Uptime
