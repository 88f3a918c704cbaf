import Uptime.Config
import Uptime.Number.Printer
import Uptime.Status
import Uptime.Target

/-!
# Publishing records

A record is logged, handed to the storage, and then announced by the notifier. Storage and notifier
may fail or break off; neither stops the program. A storage that fails is reported and the record
still announced; one that breaks off leaves the notifier uncalled. `Recorder.run` is what becomes of
a target over a whole series of attempts.
-/

namespace Uptime

/-- How a call to the storage or the notifier ends. -/
inductive Reply where
  | done
  | failed (message : String)
  /-- The call broke off. -/
  | broken
deriving DecidableEq, Repr

/-- Why an announcement fails. -/
inductive NotifyError where
  | dispatch (reason : String)

/-- What is said about a failed announcement. -/
def NotifyError.message : NotifyError → String
  | .dispatch reason => "notification dispatch failed: " ++ reason

/-- Who announces records. -/
inductive Notifier where
  /-- Writes a line to the log. -/
  | log
  /-- Another party, and how it takes the call. -/
  | external (reply : Reply)

/-- How the storage and the notifier take a record. -/
structure Replies where
  storage : Reply := .done
  notifier : Notifier := .log

/-- A call to the storage or the notifier. -/
inductive Call where
  | storeHit (hit : Hit)
  | storeFailure (failure : Failure)
  | onSuccess (target : Target)
  | onFailure (target : Target) (failure : Failure)

namespace Call

/-- The call that stores a record. -/
def store : Record → Call
  | .hit h => .storeHit h
  | .failure f => .storeFailure f

/-- The call that announces a record of a target. -/
def announce (t : Target) : Record → Call
  | .hit _ => .onSuccess t
  | .failure f => .onFailure t f

end Call

/-- The calls made and the lines logged. -/
structure Publication where
  calls : List Call := []
  log : List Log.Entry := []

namespace Publication

/-- One after the other. -/
def append (p q : Publication) : Publication := ⟨p.calls ++ q.calls, p.log ++ q.log⟩

instance : Append Publication := ⟨append⟩

@[simp] theorem calls_append (p q : Publication) : (p ++ q).calls = p.calls ++ q.calls := rfl

end Publication

namespace Recorder

/-- A line of the recorder about a target. -/
def note (level : Log.Level) (t : Target) (message : String)
    (fields : List (String × Log.Value) := []) : Log.Entry :=
  { level, source := .recorder, message, fields := ("target_id", .integer t.id.toInt) :: fields }

/-- Seconds as milliseconds. -/
def millis (seconds : Float) : Float := seconds * 1000

/-- Seconds as milliseconds with two decimals. -/
def millisText (seconds : Float) : String := Number.fixedDouble 2 (millis seconds) ++ " ms"

/-- The line that every record is logged with. -/
def summary (t : Target) : Record → Log.Entry
  | .hit h =>
    note .info t
      ("Service " ++ t.name ++ " Successful Response: " ++ millisText h.latency ++
        " | Lookup in: " ++ millisText h.pingTime)
      [("latency_ms", .double (millis h.latency)), ("dns_ms", .double (millis h.pingTime))]
  | .failure f =>
    note .warn t
      ("Service " ++ t.name ++ " Failing: " ++ f.issue ++ " | Lookup in: " ++ millisText f.pingTime)
      [("issue", .text f.issue), ("error_code", .integer f.errorCode.toInt)]

/-- What the log is told about a storage that failed. -/
def storeFailed (t : Target) (message : String) : Record → Log.Entry
  | .hit _ => note .error t ("Failed to store hit for " ++ t.name ++ ": " ++ message)
  | .failure _ => note .error t ("Failed to store failure for " ++ t.name ++ ": " ++ message)

/-- What the log is told about a notifier that failed. -/
def hookFailed (t : Target) (message : String) : Record → Log.Entry
  | .hit _ => note .error t ("Success hook for " ++ t.name ++ " failed: " ++ message)
  | .failure _ => note .error t ("Failure hook for " ++ t.name ++ " failed: " ++ message)

/-- What the log is told about a publication that broke off. -/
def brokeOff (t : Target) : Log.Entry := note .error t ("Recording " ++ t.name ++ " failed")

/-- The line with which the log announces a record. -/
def announcement (t : Target) : Record → Log.Entry
  | .hit _ =>
    { note .debug t ("Notify: " ++ t.name ++ " is online") with source := .notifier }
  | .failure f =>
    { note .info t ("Notify: " ++ t.name ++ " failed: " ++ f.issue)
        [("error_code", .integer f.errorCode.toInt)] with source := .notifier }

/-- Announces a record. -/
def announce (n : Notifier) (t : Target) (r : Record) : Publication :=
  match n with
  | .log => ⟨[.announce t r], [announcement t r]⟩
  | .external .done => ⟨[.announce t r], []⟩
  | .external (.failed message) => ⟨[.announce t r], [hookFailed t message r]⟩
  | .external .broken => ⟨[.announce t r], [brokeOff t]⟩

/-- Logs, stores and announces a record. -/
def publish (c : RecorderConfig) (storage : Reply) (n : Notifier) (t : Target) (r : Record) :
    Publication :=
  let written : Publication := ⟨[.store r], [summary t r]⟩
  let announced : Publication := if c.notifications then announce n t r else {}
  match storage with
  | .done => written ++ announced
  | .failed message => written ++ ⟨[], [storeFailed t message r]⟩ ++ announced
  | .broken => written ++ ⟨[], [brokeOff t]⟩

/-- What the recorder is asked to do after an attempt, and when. -/
structure Task where
  now : Instant
  outcome : Outcome
  /-- Whether the attempt is recorded; if not, only its measurements are taken over. -/
  recorded : Bool := true
  /-- Whether the record is published. -/
  published : Bool := true

/-- What one task leaves. -/
structure Step where
  status : Status
  record : Option Record := none
  /-- The record that was published, if one was. -/
  published : Option Record := none
  publication : Publication := {}

/-- Takes over what an attempt measured, records it and publishes the record, as far as the task
asks for it. -/
def step (c : RecorderConfig) (t : Target) (s : Status) (w : Task) (a : Replies) : Step :=
  let s := s.measured w.outcome
  if w.recorded then
    let (s, r) := s.record t w.outcome.issue w.now c.offset
    if w.published then
      ⟨s, some r, some r, publish c a.storage a.notifier t r⟩
    else { status := s, record := some r }
  else { status := s }

/-- One task after the other, each with the replies that its record gets. -/
def run (c : RecorderConfig) (t : Target) (s : Status) : List (Task × Replies) → List Step
  | [] => []
  | (w, a) :: rest =>
    let k := step c t s w a
    k :: run c t k.status rest

end Recorder

end Uptime
