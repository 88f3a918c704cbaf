import Uptime.Probe.Run
import Uptime.Recorder

/-!
# Monitors

A monitor is a target with its live status. A check probes the target once and takes over what was
measured; only a check that is recorded changes anything else, leaves a record, and has it
published. If the attempt breaks off, so does the check, and nothing is taken over.
-/

namespace Uptime

/-- A target and its status. -/
structure Monitor where
  target : Target
  status : Status := {}

/-- What a check leaves. -/
structure Check where
  status : Status
  online : Bool
  /-- The record that was published, if there is one. -/
  record : Option Record := none
  calls : List Call := []
  log : List Log.Entry := []
  /-- How echoes can be sent, if this check had to find out. -/
  found : Option Icmp.Capability := none
  /-- Whether the check broke off with its attempt. Then nobody learns whether it was `online`, and
  the loop that made it ends with it. -/
  brokenOff : Bool := false

namespace Monitor

/-- The check that comes of an attempt with an outcome. -/
def conclude (m : Monitor) (c : RecorderConfig) (storage : Reply) (n : Notifier) (now : Instant)
    (a : Attempt) (recorded : Bool) : Check :=
  let status := m.status.measured a.outcome
  let online := a.outcome.isSuccess
  if recorded then
    let (status, record) := status.record m.target a.outcome.issue now c.offset
    let p := Recorder.publish c storage n m.target record
    { status, online, record := some record, calls := p.calls, log := a.log ++ p.log,
      found := a.found }
  else { status, online, log := a.log, found := a.found }

/-- The check that breaks off with its attempt: the status stays, and there is no record. -/
def breakOff (m : Monitor) (a : Attempt) : Check :=
  { status := m.status, online := false, log := a.log, found := a.found, brokenOff := true }

/-- The check that comes of an attempt. -/
def checkBy (m : Monitor) (c : RecorderConfig) (storage : Reply) (n : Notifier) (now : Instant)
    (a : Attempt) (recorded : Bool) : Check :=
  if a.brokenOff then m.breakOff a else m.conclude c storage n now a recorded

/-- Checks the target once. -/
def check (m : Monitor) (c : RecorderConfig) (storage : Reply) (n : Notifier) (w : World)
    (recorded : Bool) : Check :=
  m.checkBy c storage n w.now (m.target.attempt w) recorded

/-- The monitor after a check. -/
def after (m : Monitor) (k : Check) : Monitor := { m with status := k.status }

theorem check_of_settled {m : Monitor} {w : World} (settled : (m.target.attempt w).brokenOff = false)
    (c : RecorderConfig) (storage : Reply) (n : Notifier) (recorded : Bool) :
    m.check c storage n w recorded =
      m.conclude c storage n w.now (m.target.attempt w) recorded := by
  rw [check, checkBy, settled]
  rfl

theorem check_of_brokenOff {m : Monitor} {w : World} (broken : (m.target.attempt w).brokenOff = true)
    (c : RecorderConfig) (storage : Reply) (n : Notifier) (recorded : Bool) :
    m.check c storage n w recorded = m.breakOff (m.target.attempt w) := by
  rw [check, checkBy, broken]
  rfl

/-- A check breaks off just if its attempt does. -/
theorem brokenOff_checkBy (m : Monitor) (c : RecorderConfig) (storage : Reply) (n : Notifier)
    (now : Instant) (a : Attempt) (recorded : Bool) :
    (m.checkBy c storage n now a recorded).brokenOff = a.brokenOff := by
  unfold checkBy
  cases broken : a.brokenOff with
  | true => rfl
  | false => cases recorded <;> rfl

/-- A check is a step of the recorder that publishes what it records. -/
theorem conclude_eq_step (m : Monitor) (c : RecorderConfig) (storage : Reply) (n : Notifier)
    (now : Instant) (a : Attempt) (recorded : Bool) :
    m.conclude c storage n now a recorded =
      let k := Recorder.step c m.target m.status ⟨now, a.outcome, recorded, true⟩ ⟨storage, n⟩
      { status := k.status, online := a.outcome.isSuccess, record := k.published
        calls := k.publication.calls, log := a.log ++ k.publication.log, found := a.found } := by
  cases recorded with
  | false => simp [conclude, Recorder.step]
  | true => rfl

end Monitor

end Uptime
